/-
This file defines the syntax tree of a program. The tree comes from a parser outside this library.
Names are bound on the tree itself: an occurrence of a name, and an access to a field, have a place
for the symbol that was found, which is empty in a tree that was just read. Everything else is as
the parser made it. The size of a variable is carried along and never looked at.
-/

import NameBinding.Position
import NameBinding.Symbol

namespace NameBinding

/-- One occurrence of a name. -/
structure Ident where
  name : String
  pos : Position
  symbol : Option Symbol := none

namespace Ident

/-- Whether a symbol was found for the occurrence. -/
def isBound (ident : Ident) : Bool :=
  ident.symbol.isSome

end Ident

/-- A type as it is written in a declaration. -/
inductive TypeName
  | boolean
  | integer
  | void
  /-- The struct type with this name. -/
  | struct (name : Ident)

namespace TypeName

/-- The text that stands for the type in symbols: its keyword, or the name of the struct. -/
def descriptor : TypeName → String
  | boolean => "boolean"
  | integer => "integer"
  | void => "void"
  | struct name => name.name

/-- Whether the type is that of functions without a result. -/
def isVoid : TypeName → Bool
  | void => true
  | _ => false

end TypeName

/-- The declaration of a variable or of a field. -/
structure VarDecl where
  type : TypeName
  name : Ident
  size : Option UInt32 := none

/-- One parameter in the declaration of a function. -/
structure Formal where
  type : TypeName
  name : Ident

/-- The declaration of a struct type. -/
structure StructDecl where
  name : Ident
  fields : List VarDecl

/-- The operators with one operand. -/
inductive UnaryOp
  | not
  | neg
deriving DecidableEq

/-- The operators with two operands. -/
inductive BinaryOp
  | add
  | sub
  | mul
  | div
  | eq
  | notEq
  | lt
  | ltEq
  | gt
  | gtEq
  | and
  | or
deriving DecidableEq

/-- Expressions. -/
inductive Expr
  /-- One of the two truth values. -/
  | truth (value : Bool) (pos : Position)
  /-- The use of a name. -/
  | id (ident : Ident)
  | intLit (value : Int32) (pos : Position)
  /-- A text, with the quotes that delimit it. -/
  | strLit (value : String) (pos : Position)
  /-- The field of a struct value, and the struct type that the access exposes to a further one. -/
  | access (base : Expr) (field : Ident) (exposed : Option Symbol)
  | assign (lhs rhs : Expr)
  | call (callee : Ident) (args : List Expr)
  | unary (op : UnaryOp) (operand : Expr)
  | binary (op : BinaryOp) (lhs rhs : Expr)

namespace Expr

/-- The symbol that an expression hands to an access of which it is the base. -/
def symbol? : Expr → Option Symbol
  | id ident => ident.symbol
  | access _ _ exposed => exposed
  | _ => none

end Expr

mutual

/-- Local declarations and the statements after them. -/
structure Block where
  decls : List Decl
  stmts : List Stmt

/-- Statements. -/
inductive Stmt
  | assign (lhs rhs : Expr)
  | postInc (target : Expr)
  | postDec (target : Expr)
  | ifThen (cond : Expr) (body : Block)
  | ifElse (cond : Expr) (thenBranch elseBranch : Block)
  | whileDo (cond : Expr) (body : Block)
  | read (target : Expr)
  | write (value : Expr)
  | call (callee : Ident) (args : List Expr)
  | ret (value : Option Expr)

/-- The declaration of a function. -/
structure Function where
  ret : TypeName
  name : Ident
  formals : List Formal
  body : Block

/-- Declarations. -/
inductive Decl
  | var (decl : VarDecl)
  | func (decl : Function)
  | struct (decl : StructDecl)

end

namespace Block

/-- The block with nothing in it. -/
def empty : Block := ⟨[], []⟩

end Block

namespace Decl

/-- The declared name. -/
def name : Decl → Ident
  | var decl => decl.name
  | func decl => decl.name
  | struct decl => decl.name

end Decl

/-- A program is its list of declarations. -/
structure Program where
  decls : List Decl

end NameBinding
