/-
This file binds the names in expressions. A name is bound to what it stands for in the innermost scope
that has it. An access selects from the fields of a struct type: the one that the base is a value of,
looked up by its name where the access stands, or, if the base is an access itself, the one which that
access exposes. Only the first name that fails in a chain of accesses is reported, since a base that
failed has been reported before. A name that fails keeps the symbol it had, and the table is only read.
-/

import NameBinding.Analysis.Trace
import NameBinding.Tree

namespace NameBinding

namespace Ident

/-- Binds the use of a name. -/
def resolve (table : SymbolTable) (ident : Ident) : Traced Ident :=
  match table.find ident.name with
  | .ok (some symbol) => do
    note (.bound ident.name ident.pos symbol)
    return { ident with symbol := some symbol }
  | .ok none => do
    report .undeclared ident.pos
    return ident
  | .error reason => do
    note (.unresolvable ident.name reason)
    return ident

end Ident

namespace SymbolTable

/-- The fields of the struct type that a symbol is a value of, as its name is visible here. -/
def fieldsOf? (table : SymbolTable) (symbol : Symbol) : Option FieldTable := do
  let structName ← symbol.structName?
  let definition ← table.visible? structName
  definition.fields?

end SymbolTable

namespace Expr

/-- The fields from which an access with this base selects. There are none if the base failed, which
was reported then, or if it is no struct value, which is reported here. -/
def selectable (table : SymbolTable) (fieldPos : Position) :
    Expr → Traced (Option FieldTable)
  | .id ident =>
    match ident.symbol with
    | none => return none
    | some symbol =>
      match table.fieldsOf? symbol with
      | some fields => return some fields
      | none => do
        report .colonAccessOfNonStruct ident.pos
        return none
  | .access _ _ (some symbol) =>
    match symbol.fields? with
    | some fields => return some fields
    | none => do
      report .colonAccessOfNonStruct fieldPos
      return none
  | .access _ field none => do
    if field.isBound then
      report .invalidStructFieldName field.pos
    return none
  | _ => do
    report .colonAccessOfNonStruct fieldPos
    return none

/-- Selects a field. A field of a struct type exposes that type to a further access. -/
def select (table : SymbolTable) (base : Expr) (field : Ident) (exposed : Option Symbol)
    (fields : FieldTable) : Traced Expr :=
  match fields.find? field.name with
  | some symbol => do
    note (.boundField field.name field.pos symbol)
    let exposed := match symbol.structName? with
      | some structName => table.visible? structName
      | none => exposed
    return .access base { field with symbol := some symbol } exposed
  | none => do
    report .undeclared field.pos
    return .access base field exposed

mutual

/-- Binds the names in an expression, from left to right. -/
def resolve (table : SymbolTable) : Expr → Traced Expr
  | .truth value pos => return .truth value pos
  | .id ident => do
    let ident ← ident.resolve table
    return .id ident
  | .intLit value pos => return .intLit value pos
  | .strLit value pos => return .strLit value pos
  | .access base field exposed => do
    let base ← base.resolve table
    match ← base.selectable table field.pos with
    | some fields => base.select table field exposed fields
    | none => return .access base field exposed
  | .assign lhs rhs => do
    let lhs ← lhs.resolve table
    let rhs ← rhs.resolve table
    return .assign lhs rhs
  | .call callee args => do
    let callee ← callee.resolve table
    let args ← resolveList table args
    return .call callee args
  | .unary op operand => do
    let operand ← operand.resolve table
    return .unary op operand
  | .binary op lhs rhs => do
    let lhs ← lhs.resolve table
    let rhs ← rhs.resolve table
    return .binary op lhs rhs

/-- Binds the names in expressions, one after the other. -/
def resolveList (table : SymbolTable) : List Expr → Traced (List Expr)
  | [] => return []
  | expr :: rest => do
    let expr ← expr.resolve table
    let rest ← resolveList table rest
    return expr :: rest

end

end Expr

end NameBinding
