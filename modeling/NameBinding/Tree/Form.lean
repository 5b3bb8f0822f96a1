/-
This file says what the document of a tree looks like. Every part of a tree has a form: a text, a
number, a list, a record with named members, or a choice between named alternatives. The forms of
records and choices refer to each other and are given as tables, so that reading is one procedure that
follows the tables. Members that may be missing have the value that is filled in for them.
-/

import NameBinding.Json

namespace NameBinding

/-- The parts of a tree that have named members. -/
inductive RecordForm
  | position
  | ident
  | program
  | block
  | varDecl
  | function
  | formal
  | structDecl
  | assignment
  | call
  | access
  | ifThen
  | ifElse
  | whileDo
  | intLit
  | strLit
  | unary
  | binary
deriving DecidableEq

/-- The parts of a tree that are one of several alternatives. -/
inductive ChoiceForm
  | decl
  | type
  | stmt
  | expr
  | unaryOp
  | binaryOp
deriving DecidableEq

/-- The form of a part of a tree. -/
inductive Form
  | text
  | int32
  | uint32
  | list (item : Form)
  | record (form : RecordForm)
  | choice (form : ChoiceForm)
deriving DecidableEq

/-- What happens to a member of a record that is missing. -/
inductive Absence
  /-- The member must be there. -/
  | refused
  /-- The member gets this value. -/
  | filled (value : Json)
  /-- The member stays away. It does so as well if it is there and null. -/
  | allowed

/-- A member of a record. -/
structure Member where
  key : String
  form : Form
  absence : Absence := .refused

/-- What belongs to the name of an alternative. -/
inductive Payload
  /-- Nothing. -/
  | none
  /-- A value. -/
  | value (form : Form)
  /-- A value or null. -/
  | optional (form : Form)
  /-- The members of a record. -/
  | members (form : RecordForm)

/-- An alternative of a choice. -/
structure Alternative where
  name : String
  payload : Payload

namespace RecordForm

/-- The name of a record in messages. -/
def title : RecordForm → String
  | position => "struct Position"
  | ident => "struct Ident"
  | program => "struct Program"
  | block => "struct Block"
  | varDecl => "struct VarDecl"
  | function => "struct FnDecl"
  | formal => "struct FormalDecl"
  | structDecl => "struct StructDecl"
  | assignment => "struct AssignExpr"
  | call => "struct CallExpr"
  | access => "struct StructAccess"
  | ifThen => "struct variant Stmt::If"
  | ifElse => "struct variant Stmt::IfElse"
  | whileDo => "struct variant Stmt::While"
  | intLit => "struct variant Expr::IntLit"
  | strLit => "struct variant Expr::StrLit"
  | unary => "struct variant Expr::Unary"
  | binary => "struct variant Expr::Binary"

/-- The document of a block with nothing in it. -/
def emptyBlock : Json := .obj [("decls", .arr []), ("stmts", .arr [])]

/-- The members of a record, in the order in which they are written. -/
def members : RecordForm → List Member
  | position => [{ key := "line", form := .uint32 }, { key := "column", form := .uint32 }]
  | ident => [{ key := "name", form := .text }, { key := "pos", form := .record .position }]
  | program => [{ key := "decls", form := .list (.choice .decl) }]
  | block =>
    [{ key := "decls", form := .list (.choice .decl), absence := .filled (.arr []) },
      { key := "stmts", form := .list (.choice .stmt), absence := .filled (.arr []) }]
  | varDecl =>
    [{ key := "ty", form := .choice .type }, { key := "name", form := .record .ident },
      { key := "size", form := .uint32, absence := .allowed }]
  | function =>
    [{ key := "ret", form := .choice .type }, { key := "name", form := .record .ident },
      { key := "formals", form := .list (.record .formal), absence := .filled (.arr []) },
      { key := "body", form := .record .block, absence := .filled emptyBlock }]
  | formal => [{ key := "ty", form := .choice .type }, { key := "name", form := .record .ident }]
  | structDecl =>
    [{ key := "name", form := .record .ident },
      { key := "fields", form := .list (.record .varDecl) }]
  | assignment => [{ key := "lhs", form := .choice .expr }, { key := "rhs", form := .choice .expr }]
  | call =>
    [{ key := "callee", form := .record .ident },
      { key := "args", form := .list (.choice .expr), absence := .filled (.arr []) }]
  | access => [{ key := "base", form := .choice .expr }, { key := "field", form := .record .ident }]
  | ifThen => [{ key := "cond", form := .choice .expr }, { key := "body", form := .record .block }]
  | ifElse =>
    [{ key := "cond", form := .choice .expr }, { key := "then_branch", form := .record .block },
      { key := "else_branch", form := .record .block }]
  | whileDo => [{ key := "cond", form := .choice .expr }, { key := "body", form := .record .block }]
  | intLit => [{ key := "value", form := .int32 }, { key := "pos", form := .record .position }]
  | strLit => [{ key := "value", form := .text }, { key := "pos", form := .record .position }]
  | unary =>
    [{ key := "op", form := .choice .unaryOp }, { key := "operand", form := .choice .expr }]
  | binary =>
    [{ key := "op", form := .choice .binaryOp }, { key := "lhs", form := .choice .expr },
      { key := "rhs", form := .choice .expr }]

/-- The name of a record and the number of its members. -/
def titleWithCount (form : RecordForm) : String :=
  let count := form.members.length
  form.title ++ " with " ++ count.repr ++ (if count = 1 then " element" else " elements")

end RecordForm

namespace ChoiceForm

/-- The alternatives of a choice, in the order in which messages list them. -/
def alternatives : ChoiceForm → List Alternative
  | decl =>
    [⟨"var", .value (.record .varDecl)⟩, ⟨"func", .value (.record .function)⟩,
      ⟨"struct", .value (.record .structDecl)⟩]
  | type =>
    [⟨"boolean", .none⟩, ⟨"integer", .none⟩, ⟨"void", .none⟩,
      ⟨"struct", .value (.record .ident)⟩]
  | stmt =>
    [⟨"assign", .value (.record .assignment)⟩, ⟨"post_inc", .value (.choice .expr)⟩,
      ⟨"post_dec", .value (.choice .expr)⟩, ⟨"if", .members .ifThen⟩,
      ⟨"if_else", .members .ifElse⟩, ⟨"while", .members .whileDo⟩,
      ⟨"read", .value (.choice .expr)⟩, ⟨"write", .value (.choice .expr)⟩,
      ⟨"call", .value (.record .call)⟩, ⟨"return", .optional (.choice .expr)⟩]
  | expr =>
    [⟨"true", .value (.record .position)⟩, ⟨"false", .value (.record .position)⟩,
      ⟨"id", .value (.record .ident)⟩, ⟨"int_lit", .members .intLit⟩,
      ⟨"str_lit", .members .strLit⟩, ⟨"access", .value (.record .access)⟩,
      ⟨"assign", .value (.record .assignment)⟩, ⟨"call", .value (.record .call)⟩,
      ⟨"unary", .members .unary⟩, ⟨"binary", .members .binary⟩]
  | unaryOp => [⟨"not", .none⟩, ⟨"neg", .none⟩]
  | binaryOp =>
    [⟨"add", .none⟩, ⟨"sub", .none⟩, ⟨"mul", .none⟩, ⟨"div", .none⟩, ⟨"eq", .none⟩,
      ⟨"not_eq", .none⟩, ⟨"lt", .none⟩, ⟨"lt_eq", .none⟩, ⟨"gt", .none⟩, ⟨"gt_eq", .none⟩,
      ⟨"and", .none⟩, ⟨"or", .none⟩]

/-- The names of the alternatives. -/
def names (form : ChoiceForm) : List String :=
  form.alternatives.map Alternative.name

/-- The alternative with a name. -/
def find? (form : ChoiceForm) (name : String) : Option Alternative :=
  form.alternatives.find? fun alternative => alternative.name == name

end ChoiceForm

end NameBinding
