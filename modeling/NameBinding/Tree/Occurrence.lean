/-
This file lists the occurrences of names in a program, in the order of the source text, each with the
part it plays there. A visit list has in addition every access to a field, after its base and its
field. Names are bound in references and fields only; those that were left without a symbol are the
unbound ones.
-/

import NameBinding.Tree

namespace NameBinding

/-- The part that an occurrence of a name plays. -/
inductive Role
  /-- The name that a declaration or a formal introduces. -/
  | declaration
  /-- The name of a struct in a type. -/
  | typeName
  /-- The use of a name: in an expression, or as what is called. -/
  | reference
  /-- The field in an access. -/
  | field
deriving DecidableEq

namespace Role

/-- The name under which a role is shown. -/
def text : Role → String
  | declaration => "declaration"
  | typeName => "type"
  | reference => "reference"
  | field => "field"

/-- Whether an occurrence with this role is to be bound. -/
def isBindable : Role → Bool
  | reference => true
  | field => true
  | declaration => false
  | typeName => false

end Role

/-- A thing met on the way through a tree. -/
inductive Visit
  /-- An occurrence of a name. -/
  | ident (ident : Ident) (role : Role)
  /-- An access, met after its base and its field. -/
  | access (base : Expr) (field : Ident) (exposed : Option Symbol)

/-! ### Visits in the order of the source text -/

namespace TypeName

/-- Only the type of a struct has a name in it. -/
def visits : TypeName → List Visit
  | struct name => [.ident name .typeName]
  | _ => []

end TypeName

namespace VarDecl

/-- The type comes before the name. -/
def visits (decl : VarDecl) : List Visit :=
  decl.type.visits ++ [.ident decl.name .declaration]

end VarDecl

namespace Formal

/-- The type comes before the name. -/
def visits (formal : Formal) : List Visit :=
  formal.type.visits ++ [.ident formal.name .declaration]

end Formal

namespace StructDecl

/-- The name comes before the fields. -/
def visits (decl : StructDecl) : List Visit :=
  .ident decl.name .declaration :: decl.fields.flatMap VarDecl.visits

end StructDecl

mutual

/-- The visits of an expression. -/
def Expr.visits : Expr → List Visit
  | .truth _ _ => []
  | .id ident => [.ident ident .reference]
  | .intLit _ _ => []
  | .strLit _ _ => []
  | .access base field exposed =>
    base.visits ++ [.ident field .field, .access base field exposed]
  | .assign lhs rhs => lhs.visits ++ rhs.visits
  | .call callee args => .ident callee .reference :: Expr.visitsOfList args
  | .unary _ operand => operand.visits
  | .binary _ lhs rhs => lhs.visits ++ rhs.visits

/-- The visits of expressions, one after the other. -/
def Expr.visitsOfList : List Expr → List Visit
  | [] => []
  | expr :: rest => expr.visits ++ Expr.visitsOfList rest

end

mutual

/-- The declarations of a block come before its statements. -/
def Block.visits : Block → List Visit
  | ⟨decls, stmts⟩ => Decl.visitsOfList decls ++ Stmt.visitsOfList stmts

/-- The visits of a statement. -/
def Stmt.visits : Stmt → List Visit
  | .assign lhs rhs => lhs.visits ++ rhs.visits
  | .postInc target => target.visits
  | .postDec target => target.visits
  | .ifThen cond body => cond.visits ++ body.visits
  | .ifElse cond thenBranch elseBranch => cond.visits ++ thenBranch.visits ++ elseBranch.visits
  | .whileDo cond body => cond.visits ++ body.visits
  | .read target => target.visits
  | .write value => value.visits
  | .call callee args => .ident callee .reference :: Expr.visitsOfList args
  | .ret none => []
  | .ret (some value) => value.visits

/-- The visits of statements, one after the other. -/
def Stmt.visitsOfList : List Stmt → List Visit
  | [] => []
  | stmt :: rest => stmt.visits ++ Stmt.visitsOfList rest

/-- The visits of a function: its return type, its name, its formals and its body. -/
def Function.visits : Function → List Visit
  | ⟨ret, name, formals, body⟩ =>
    ret.visits ++ .ident name .declaration :: formals.flatMap Formal.visits ++ body.visits

/-- The visits of a declaration. -/
def Decl.visits : Decl → List Visit
  | .var decl => decl.visits
  | .func decl => decl.visits
  | .struct decl => decl.visits

/-- The visits of declarations, one after the other. -/
def Decl.visitsOfList : List Decl → List Visit
  | [] => []
  | decl :: rest => decl.visits ++ Decl.visitsOfList rest

end

namespace Visit

/-- The occurrence that was met, if it was one. -/
def occurrence? : Visit → Option (Ident × Role)
  | .ident occurrence role => some (occurrence, role)
  | .access _ _ _ => none

end Visit

/-! ### Occurrences of a program -/

namespace Program

/-- Everything met on the way through a program. -/
def visits (program : Program) : List Visit :=
  Decl.visitsOfList program.decls

/-- Every occurrence of a name in a program, with its role. -/
def occurrences (program : Program) : List (Ident × Role) :=
  program.visits.filterMap Visit.occurrence?

/-- The references and fields that have no symbol. -/
def unbound (program : Program) : List Ident :=
  (program.occurrences.filter fun (ident, role) => role.isBindable && !ident.isBound).map Prod.fst

end Program

end NameBinding
