/-
This file shows trees as source text. The text follows the shape of the tree: declarations end with a
point, bodies of functions and structs stand in square brackets and those of branches and loops in
braces, and every operator has its parentheses. A nested level is indented by one unit more. Behind
each name that is bound stands the descriptor of its symbol, in braces.
-/

import NameBinding.Tree

namespace NameBinding

namespace UnaryOp

/-- The sign of an operator with one operand. -/
def sign : UnaryOp → String
  | not => "^"
  | neg => "-"

end UnaryOp

namespace BinaryOp

/-- The sign of an operator with two operands. -/
def sign : BinaryOp → String
  | add => "+"
  | sub => "-"
  | mul => "*"
  | div => "/"
  | eq => "=="
  | notEq => "^="
  | lt => "<"
  | ltEq => "<="
  | gt => ">"
  | gtEq => ">="
  | and => "&"
  | or => "|"

end BinaryOp

/-! ### Names and types -/

namespace Ident

/-- A name, and behind it the descriptor of its symbol if it is bound. -/
def source (ident : Ident) : String :=
  match ident.symbol with
  | none => ident.name
  | some symbol => ident.name ++ "\x7b" ++ symbol.descriptor ++ "\x7d"

end Ident

namespace TypeName

/-- The text of a type. -/
def source : TypeName → String
  | boolean => "boolean"
  | integer => "integer"
  | void => "void"
  | struct name => "struct " ++ name.source

end TypeName

/-! ### Expressions -/

mutual

/-- The text of an expression. -/
def Expr.source : Expr → String
  | .truth true _ => "TRUE"
  | .truth false _ => "FALSE"
  | .id ident => ident.source
  | .intLit value _ => value.toInt.repr
  | .strLit value _ => value
  | .access base field _ => base.source ++ ":" ++ field.source
  | .assign lhs rhs => "(" ++ lhs.source ++ " = " ++ rhs.source ++ ")"
  | .call callee args => callee.source ++ "(" ++ Expr.sourceOfArgs args ++ ")"
  | .unary op operand => "(" ++ op.sign ++ operand.source ++ ")"
  | .binary op lhs rhs => "(" ++ lhs.source ++ " " ++ op.sign ++ " " ++ rhs.source ++ ")"

/-- The text of arguments, with commas between them. -/
def Expr.sourceOfArgs : List Expr → String
  | [] => ""
  | [expr] => expr.source
  | expr :: next :: rest => expr.source ++ ", " ++ Expr.sourceOfArgs (next :: rest)

end

/-! ### Declarations and statements -/

/-- The blanks before a line at this level, if one level takes so many of them. -/
def indentation (unit level : Nat) : String :=
  String.ofList (List.replicate (level * unit) ' ')

namespace VarDecl

/-- The line of a variable. -/
def source (unit level : Nat) (decl : VarDecl) : String :=
  indentation unit level ++ decl.type.source ++ " " ++ decl.name.source ++ ".\n"

end VarDecl

namespace Formal

/-- The text of one parameter. -/
def source (formal : Formal) : String :=
  formal.type.source ++ " " ++ formal.name.source

end Formal

namespace StructDecl

/-- The lines of a struct and the empty line after it. -/
def source (unit level : Nat) (decl : StructDecl) : String :=
  indentation unit level ++ "struct " ++ decl.name.source ++ " [\n" ++
    String.join (decl.fields.map (VarDecl.source unit (level + 1))) ++
    indentation unit level ++ "]\n\n"

end StructDecl

mutual

/-- The lines of a block. -/
def Block.source (unit level : Nat) : Block → String
  | ⟨decls, stmts⟩ => Decl.sourceOfList unit level decls ++ Stmt.sourceOfList unit level stmts

/-- The lines of a statement. -/
def Stmt.source (unit level : Nat) : Stmt → String
  | .assign lhs rhs => indentation unit level ++ lhs.source ++ " = " ++ rhs.source ++ ".\n"
  | .postInc target => indentation unit level ++ target.source ++ "++.\n"
  | .postDec target => indentation unit level ++ target.source ++ "--.\n"
  | .ifThen cond body =>
    indentation unit level ++ "if (" ++ cond.source ++ ") \x7b\n" ++
      body.source unit (level + 1) ++ indentation unit level ++ "\x7d\n"
  | .ifElse cond thenBranch elseBranch =>
    indentation unit level ++ "if (" ++ cond.source ++ ") \x7b\n" ++
      thenBranch.source unit (level + 1) ++ indentation unit level ++ "\x7d\n" ++
      indentation unit level ++ "else \x7b\n" ++
      elseBranch.source unit (level + 1) ++ indentation unit level ++ "\x7d\n"
  | .whileDo cond body =>
    indentation unit level ++ "while (" ++ cond.source ++ ") \x7b\n" ++
      body.source unit (level + 1) ++ indentation unit level ++ "\x7d\n"
  | .read target => indentation unit level ++ "input -> " ++ target.source ++ ".\n"
  | .write value => indentation unit level ++ "disp <- (" ++ value.source ++ ").\n"
  | .call callee args =>
    indentation unit level ++ callee.source ++ "(" ++ Expr.sourceOfArgs args ++ ").\n"
  | .ret none => indentation unit level ++ "return.\n"
  | .ret (some value) => indentation unit level ++ "return " ++ value.source ++ ".\n"

/-- The lines of statements, one after the other. -/
def Stmt.sourceOfList (unit level : Nat) : List Stmt → String
  | [] => ""
  | stmt :: rest => stmt.source unit level ++ Stmt.sourceOfList unit level rest

/-- The lines of a function and the empty line after it. -/
def Function.source (unit level : Nat) : Function → String
  | ⟨ret, name, formals, body⟩ =>
    indentation unit level ++ ret.source ++ " " ++ name.source ++
      "[" ++ String.intercalate ", " (formals.map Formal.source) ++ "] [\n" ++
      body.source unit (level + 1) ++ indentation unit level ++ "]\n\n"

/-- The lines of a declaration. -/
def Decl.source (unit level : Nat) : Decl → String
  | .var decl => decl.source unit level
  | .func decl => decl.source unit level
  | .struct decl => decl.source unit level

/-- The lines of declarations, one after the other. -/
def Decl.sourceOfList (unit level : Nat) : List Decl → String
  | [] => ""
  | decl :: rest => decl.source unit level ++ Decl.sourceOfList unit level rest

end

namespace Program

/-- The source text of a program, with this many blanks for each level. -/
def source (unit : Nat) (program : Program) : String :=
  Decl.sourceOfList unit 0 program.decls

end Program

end NameBinding
