/-
This file turns trees into documents and documents into trees. The symbols that were found for names
are no part of a document. Back from a document, only the one shape is taken that a tree is written
in, so a tree comes back without its symbols and otherwise as it was, and a document that is taken is
the document of its tree.
-/

import NameBinding.Json
import NameBinding.Tree

namespace NameBinding

/-! ### From trees to documents -/

namespace Position

/-- The document of a position. -/
def toJson (pos : Position) : Json :=
  .obj [("line", .ofNat pos.line.toNat), ("column", .ofNat pos.column.toNat)]

end Position

namespace Ident

/-- The document of a name. -/
def toJson (ident : Ident) : Json :=
  .obj [("name", .str ident.name), ("pos", ident.pos.toJson)]

end Ident

namespace TypeName

/-- The document of a type. -/
def toJson : TypeName → Json
  | boolean => .str "boolean"
  | integer => .str "integer"
  | void => .str "void"
  | struct name => .obj [("struct", name.toJson)]

end TypeName

namespace VarDecl

/-- The document of a variable. Its size stands there only if it has one. -/
def toJson (decl : VarDecl) : Json :=
  match decl.size with
  | none => .obj [("ty", decl.type.toJson), ("name", decl.name.toJson)]
  | some size =>
    .obj [("ty", decl.type.toJson), ("name", decl.name.toJson), ("size", .ofNat size.toNat)]

end VarDecl

namespace Formal

/-- The document of a formal. -/
def toJson (formal : Formal) : Json :=
  .obj [("ty", formal.type.toJson), ("name", formal.name.toJson)]

end Formal

namespace StructDecl

/-- The document of a struct. -/
def toJson (decl : StructDecl) : Json :=
  .obj [("name", decl.name.toJson), ("fields", .arr (decl.fields.map VarDecl.toJson))]

end StructDecl

namespace UnaryOp

/-- The name of an operator in documents. -/
def text : UnaryOp → String
  | not => "not"
  | neg => "neg"

end UnaryOp

namespace BinaryOp

/-- The name of an operator in documents. -/
def text : BinaryOp → String
  | add => "add"
  | sub => "sub"
  | mul => "mul"
  | div => "div"
  | eq => "eq"
  | notEq => "not_eq"
  | lt => "lt"
  | ltEq => "lt_eq"
  | gt => "gt"
  | gtEq => "gt_eq"
  | and => "and"
  | or => "or"

end BinaryOp

mutual

/-- The document of an expression. -/
def Expr.toJson : Expr → Json
  | .truth true pos => .obj [("true", pos.toJson)]
  | .truth false pos => .obj [("false", pos.toJson)]
  | .id ident => .obj [("id", ident.toJson)]
  | .intLit value pos =>
    .obj [("int_lit", .obj [("value", .int value.toInt), ("pos", pos.toJson)])]
  | .strLit value pos => .obj [("str_lit", .obj [("value", .str value), ("pos", pos.toJson)])]
  | .access base field _ =>
    .obj [("access", .obj [("base", base.toJson), ("field", field.toJson)])]
  | .assign lhs rhs => .obj [("assign", .obj [("lhs", lhs.toJson), ("rhs", rhs.toJson)])]
  | .call callee args =>
    .obj [("call", .obj [("callee", callee.toJson), ("args", .arr (Expr.toJsonList args))])]
  | .unary op operand =>
    .obj [("unary", .obj [("op", .str op.text), ("operand", operand.toJson)])]
  | .binary op lhs rhs =>
    .obj [("binary", .obj [("op", .str op.text), ("lhs", lhs.toJson), ("rhs", rhs.toJson)])]

/-- The documents of expressions. -/
def Expr.toJsonList : List Expr → List Json
  | [] => []
  | expr :: rest => expr.toJson :: Expr.toJsonList rest

end

mutual

/-- The document of a block. -/
def Block.toJson : Block → Json
  | ⟨decls, stmts⟩ =>
    .obj [("decls", .arr (Decl.toJsonList decls)), ("stmts", .arr (Stmt.toJsonList stmts))]

/-- The document of a statement. -/
def Stmt.toJson : Stmt → Json
  | .assign lhs rhs => .obj [("assign", .obj [("lhs", lhs.toJson), ("rhs", rhs.toJson)])]
  | .postInc target => .obj [("post_inc", target.toJson)]
  | .postDec target => .obj [("post_dec", target.toJson)]
  | .ifThen cond body => .obj [("if", .obj [("cond", cond.toJson), ("body", body.toJson)])]
  | .ifElse cond thenBranch elseBranch =>
    .obj [("if_else", .obj [("cond", cond.toJson), ("then_branch", thenBranch.toJson),
      ("else_branch", elseBranch.toJson)])]
  | .whileDo cond body => .obj [("while", .obj [("cond", cond.toJson), ("body", body.toJson)])]
  | .read target => .obj [("read", target.toJson)]
  | .write value => .obj [("write", value.toJson)]
  | .call callee args =>
    .obj [("call", .obj [("callee", callee.toJson), ("args", .arr (Expr.toJsonList args))])]
  | .ret none => .obj [("return", .null)]
  | .ret (some value) => .obj [("return", value.toJson)]

/-- The documents of statements. -/
def Stmt.toJsonList : List Stmt → List Json
  | [] => []
  | stmt :: rest => stmt.toJson :: Stmt.toJsonList rest

/-- The document of a function. -/
def Function.toJson : Function → Json
  | ⟨ret, name, formals, body⟩ =>
    .obj [("ret", ret.toJson), ("name", name.toJson),
      ("formals", .arr (formals.map Formal.toJson)), ("body", body.toJson)]

/-- The document of a declaration. -/
def Decl.toJson : Decl → Json
  | .var decl => .obj [("var", decl.toJson)]
  | .func decl => .obj [("func", decl.toJson)]
  | .struct decl => .obj [("struct", decl.toJson)]

/-- The documents of declarations. -/
def Decl.toJsonList : List Decl → List Json
  | [] => []
  | decl :: rest => decl.toJson :: Decl.toJsonList rest

end

namespace Program

/-- The document of a program. -/
def toJson (program : Program) : Json :=
  .obj [("decls", .arr (Decl.toJsonList program.decls))]

end Program

/-! ### From documents to trees -/

/-- The machine word that a number is, if it is one. -/
def word32OfJson? : Json → Option UInt32
  | .int (.ofNat n) => if n < Nat.pow 2 32 then some (UInt32.ofNat n) else none
  | _ => none

/-- The machine word with a sign that a number is, if it is one. -/
def signed32OfJson? : Json → Option Int32
  | .int n => if -Int.pow 2 31 ≤ n ∧ n < Int.pow 2 31 then some (Int32.ofInt n) else none
  | _ => none

/-- The tree of each document, if every one has a tree. -/
def ofJsonItems? {α : Type} (ofJson? : Json → Option α) : List Json → Option (List α)
  | [] => some []
  | item :: rest => do return (← ofJson? item) :: (← ofJsonItems? ofJson? rest)

/-- The position of a document. -/
def Position.ofJson? : Json → Option Position
  | .obj [("line", line), ("column", column)] => do
    return { line := ← word32OfJson? line, column := ← word32OfJson? column }
  | _ => none

/-- The name of a document. -/
def Ident.ofJson? : Json → Option Ident
  | .obj [("name", .str name), ("pos", pos)] => do
    return { name, pos := ← Position.ofJson? pos }
  | _ => none

/-- The type of a document. -/
def TypeName.ofJson? : Json → Option TypeName
  | .str "boolean" => some .boolean
  | .str "integer" => some .integer
  | .str "void" => some .void
  | .obj [("struct", name)] => do return .struct (← Ident.ofJson? name)
  | _ => none

/-- The variable of a document. -/
def VarDecl.ofJson? : Json → Option VarDecl
  | .obj [("ty", type), ("name", name)] => do
    return { type := ← TypeName.ofJson? type, name := ← Ident.ofJson? name }
  | .obj [("ty", type), ("name", name), ("size", size)] => do
    return { type := ← TypeName.ofJson? type, name := ← Ident.ofJson? name,
             size := some (← word32OfJson? size) }
  | _ => none

/-- The formal of a document. -/
def Formal.ofJson? : Json → Option Formal
  | .obj [("ty", type), ("name", name)] => do
    return { type := ← TypeName.ofJson? type, name := ← Ident.ofJson? name }
  | _ => none

/-- The struct of a document. -/
def StructDecl.ofJson? : Json → Option StructDecl
  | .obj [("name", name), ("fields", .arr fields)] => do
    return { name := ← Ident.ofJson? name, fields := ← ofJsonItems? VarDecl.ofJson? fields }
  | _ => none

/-- The operator with a name. -/
def UnaryOp.ofText? : String → Option UnaryOp
  | "not" => some .not
  | "neg" => some .neg
  | _ => none

/-- The operator with a name. -/
def BinaryOp.ofText? : String → Option BinaryOp
  | "add" => some .add
  | "sub" => some .sub
  | "mul" => some .mul
  | "div" => some .div
  | "eq" => some .eq
  | "not_eq" => some .notEq
  | "lt" => some .lt
  | "lt_eq" => some .ltEq
  | "gt" => some .gt
  | "gt_eq" => some .gtEq
  | "and" => some .and
  | "or" => some .or
  | _ => none

mutual

/-- The expression of a document. -/
def Expr.ofJson? : Json → Option Expr
  | .obj [("true", pos)] => do return .truth true (← Position.ofJson? pos)
  | .obj [("false", pos)] => do return .truth false (← Position.ofJson? pos)
  | .obj [("id", ident)] => do return .id (← Ident.ofJson? ident)
  | .obj [("int_lit", .obj [("value", value), ("pos", pos)])] => do
    return .intLit (← signed32OfJson? value) (← Position.ofJson? pos)
  | .obj [("str_lit", .obj [("value", .str value), ("pos", pos)])] => do
    return .strLit value (← Position.ofJson? pos)
  | .obj [("access", .obj [("base", base), ("field", field)])] => do
    return .access (← Expr.ofJson? base) (← Ident.ofJson? field) none
  | .obj [("assign", .obj [("lhs", lhs), ("rhs", rhs)])] => do
    return .assign (← Expr.ofJson? lhs) (← Expr.ofJson? rhs)
  | .obj [("call", .obj [("callee", callee), ("args", .arr args)])] => do
    return .call (← Ident.ofJson? callee) (← Expr.ofJsonList? args)
  | .obj [("unary", .obj [("op", .str op), ("operand", operand)])] => do
    return .unary (← UnaryOp.ofText? op) (← Expr.ofJson? operand)
  | .obj [("binary", .obj [("op", .str op), ("lhs", lhs), ("rhs", rhs)])] => do
    return .binary (← BinaryOp.ofText? op) (← Expr.ofJson? lhs) (← Expr.ofJson? rhs)
  | _ => none

/-- The expressions of documents. -/
def Expr.ofJsonList? : List Json → Option (List Expr)
  | [] => some []
  | item :: rest => do return (← Expr.ofJson? item) :: (← Expr.ofJsonList? rest)

end

mutual

/-- The block of a document. -/
def Block.ofJson? : Json → Option Block
  | .obj [("decls", .arr decls), ("stmts", .arr stmts)] => do
    return ⟨← Decl.ofJsonList? decls, ← Stmt.ofJsonList? stmts⟩
  | _ => none

/-- The statement of a document. -/
def Stmt.ofJson? : Json → Option Stmt
  | .obj [("assign", .obj [("lhs", lhs), ("rhs", rhs)])] => do
    return .assign (← Expr.ofJson? lhs) (← Expr.ofJson? rhs)
  | .obj [("post_inc", target)] => do return .postInc (← Expr.ofJson? target)
  | .obj [("post_dec", target)] => do return .postDec (← Expr.ofJson? target)
  | .obj [("if", .obj [("cond", cond), ("body", body)])] => do
    return .ifThen (← Expr.ofJson? cond) (← Block.ofJson? body)
  | .obj [("if_else", .obj [("cond", cond), ("then_branch", thenBranch),
      ("else_branch", elseBranch)])] => do
    return .ifElse (← Expr.ofJson? cond) (← Block.ofJson? thenBranch) (← Block.ofJson? elseBranch)
  | .obj [("while", .obj [("cond", cond), ("body", body)])] => do
    return .whileDo (← Expr.ofJson? cond) (← Block.ofJson? body)
  | .obj [("read", target)] => do return .read (← Expr.ofJson? target)
  | .obj [("write", value)] => do return .write (← Expr.ofJson? value)
  | .obj [("call", .obj [("callee", callee), ("args", .arr args)])] => do
    return .call (← Ident.ofJson? callee) (← Expr.ofJsonList? args)
  | .obj [("return", .null)] => some (.ret none)
  | .obj [("return", value)] => do return .ret (some (← Expr.ofJson? value))
  | _ => none

/-- The statements of documents. -/
def Stmt.ofJsonList? : List Json → Option (List Stmt)
  | [] => some []
  | item :: rest => do return (← Stmt.ofJson? item) :: (← Stmt.ofJsonList? rest)

/-- The function of a document. -/
def Function.ofJson? : Json → Option Function
  | .obj [("ret", ret), ("name", name), ("formals", .arr formals), ("body", body)] => do
    return ⟨← TypeName.ofJson? ret, ← Ident.ofJson? name, ← ofJsonItems? Formal.ofJson? formals,
      ← Block.ofJson? body⟩
  | _ => none

/-- The declaration of a document. -/
def Decl.ofJson? : Json → Option Decl
  | .obj [("var", decl)] => do return .var (← VarDecl.ofJson? decl)
  | .obj [("func", decl)] => do return .func (← Function.ofJson? decl)
  | .obj [("struct", decl)] => do return .struct (← StructDecl.ofJson? decl)
  | _ => none

/-- The declarations of documents. -/
def Decl.ofJsonList? : List Json → Option (List Decl)
  | [] => some []
  | item :: rest => do return (← Decl.ofJson? item) :: (← Decl.ofJsonList? rest)

end

/-- The program of a document. -/
def Program.ofJson? : Json → Option Program
  | .obj [("decls", .arr decls)] => do return ⟨← Decl.ofJsonList? decls⟩
  | _ => none

end NameBinding
