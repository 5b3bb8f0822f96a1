/-
This file says what becomes of the names in an expression, given what names stand for where the
expression stands. An identifier is bound to what its name stands for. An access is bound to the
field of the struct type that its base is a value of, and exposes the struct type of that field. Of
the names in a chain of accesses the first one that cannot be followed is at fault, and a name can
be at fault although it is bound, if it is the base of an access and has no fields. The uses of an
expression are its names in the order of the text, each with whether an access follows; binding the
names of an unbound expression reports exactly the uses at fault, each once and in this order.
-/

import NameBinding.Tree.Occurrence
import NameBinding.Proofs.Traced

namespace NameBinding

/-! ### What expressions denote -/

/-- What the name of the struct type stands for that a symbol is a value of. -/
def Symbol.structType? (meaning : String → Option Symbol) (symbol : Symbol) : Option Symbol :=
  symbol.structName?.bind meaning

/-- The fields of the struct type that a symbol is a value of. -/
def Symbol.members? (meaning : String → Option Symbol) (symbol : Symbol) : Option FieldTable :=
  (symbol.structType? meaning).bind Symbol.fields?

namespace Expr

/-- The symbol of the last name of an expression that is an identifier or an access. -/
def denoted? (meaning : String → Option Symbol) : Expr → Option Symbol
  | id ident => meaning ident.name
  | access base field _ =>
    ((base.denoted? meaning).bind (Symbol.members? meaning)).bind fun members =>
      members.find? field.name
  | _ => none

/-- The fields from which an access with this base selects. -/
def members? (meaning : String → Option Symbol) (base : Expr) : Option FieldTable :=
  (base.denoted? meaning).bind (Symbol.members? meaning)

/-- What the name of the struct type stands for that an expression has as its type. -/
def exposed? (meaning : String → Option Symbol) (expr : Expr) : Option Symbol :=
  (expr.denoted? meaning).bind (Symbol.structType? meaning)

mutual

/-- An expression with each name bound to what it stands for. -/
def bound (meaning : String → Option Symbol) : Expr → Expr
  | truth value pos => truth value pos
  | id ident => id { ident with symbol := meaning ident.name }
  | intLit value pos => intLit value pos
  | strLit value pos => strLit value pos
  | access base field exposed =>
    access (base.bound meaning)
      { field with symbol := (access base field exposed).denoted? meaning }
      ((access base field exposed).exposed? meaning)
  | assign lhs rhs => assign (lhs.bound meaning) (rhs.bound meaning)
  | call callee args =>
    call { callee with symbol := meaning callee.name } (boundList meaning args)
  | unary op operand => unary op (operand.bound meaning)
  | binary op lhs rhs => binary op (lhs.bound meaning) (rhs.bound meaning)

/-- Expressions with their names bound. -/
def boundList (meaning : String → Option Symbol) : List Expr → List Expr
  | [] => []
  | expr :: rest => expr.bound meaning :: boundList meaning rest

end

end Expr

/-! ### The uses of an expression -/

/-- A thing met on the way through an expression. -/
inductive Use
  /-- An identifier, and whether it is the base of an access. -/
  | reference (ident : Ident) (isBase : Bool)
  /-- The field of an access with this base, and whether the access is the base of a further one. -/
  | member (base : Expr) (field : Ident) (isBase : Bool)
  /-- An access, met after its base and its field. -/
  | access (base : Expr) (field : Ident) (exposed : Option Symbol)

mutual

/-- The uses of an expression, which may be the base of an access. -/
def Expr.uses (isBase : Bool) : Expr → List Use
  | .truth _ _ => []
  | .id ident => [.reference ident isBase]
  | .intLit _ _ => []
  | .strLit _ _ => []
  | .access base field exposed =>
    base.uses true ++ [.member base field isBase, .access base field exposed]
  | .assign lhs rhs => lhs.uses false ++ rhs.uses false
  | .call callee args => .reference callee false :: Expr.usesOfList args
  | .unary _ operand => operand.uses false
  | .binary _ lhs rhs => lhs.uses false ++ rhs.uses false

/-- The uses of expressions, one after the other. -/
def Expr.usesOfList : List Expr → List Use
  | [] => []
  | expr :: rest => expr.uses false ++ Expr.usesOfList rest

end

/-- Whether an error is one of a use and not of a declaration. -/
def DiagnosticKind.isOfUse : DiagnosticKind → Bool
  | undeclared => true
  | colonAccessOfNonStruct => true
  | invalidStructFieldName => true
  | _ => false

namespace Use

/-- What is met before the names are bound. -/
def given : Use → Visit
  | reference ident _ => .ident ident .reference
  | member _ field _ => .ident field .field
  | access base field exposed => .access base field exposed

/-- What is met after the names are bound. -/
def found (meaning : String → Option Symbol) : Use → Visit
  | reference ident _ => .ident { ident with symbol := meaning ident.name } .reference
  | member base field _ =>
    .ident { field with symbol := (Expr.access base field none).denoted? meaning } .field
  | access base field exposed =>
    .access (base.bound meaning)
      { field with symbol := (Expr.access base field exposed).denoted? meaning }
      ((Expr.access base field exposed).exposed? meaning)

/-- The error of a field in an access whose base has no fields. If the last name of the base can be
blamed, the field is not. -/
def baseFault? (meaning : String → Option Symbol) (field : Ident) : Expr → Option Diagnostic
  | .id _ => none
  | .access base inner exposed =>
    ((Expr.access base inner exposed).exposed? meaning).map fun _ =>
      ⟨.colonAccessOfNonStruct, field.pos⟩
  | _ => some ⟨.colonAccessOfNonStruct, field.pos⟩

/-- The error that a use is blamed for. -/
def fault? (meaning : String → Option Symbol) : Use → Option Diagnostic
  | reference ident isBase =>
    match meaning ident.name with
    | none => some ⟨.undeclared, ident.pos⟩
    | some symbol =>
      if isBase && (symbol.members? meaning).isNone then
        some ⟨.colonAccessOfNonStruct, ident.pos⟩
      else none
  | member base field isBase =>
    match base.members? meaning with
    | none => baseFault? meaning field base
    | some members =>
      match members.find? field.name with
      | none => some ⟨.undeclared, field.pos⟩
      | some symbol =>
        if isBase && (symbol.structType? meaning).isNone then
          some ⟨.invalidStructFieldName, field.pos⟩
        else none
  | access _ _ _ => none

@[simp] theorem fault?_access (meaning : String → Option Symbol) (base : Expr) (field : Ident)
    (exposed : Option Symbol) : (access base field exposed).fault? meaning = none := rfl

/-- A reference is blamed for itself, for being undeclared or for what follows it. -/
theorem fault?_reference (meaning : String → Option Symbol) (ident : Ident) (isBase : Bool)
    (diagnostic : Diagnostic) (blamed : (reference ident isBase).fault? meaning = some diagnostic) :
    diagnostic = ⟨.undeclared, ident.pos⟩ ∨ diagnostic = ⟨.colonAccessOfNonStruct, ident.pos⟩ := by
  simp only [fault?] at blamed
  split at blamed
  · exact Or.inl (Option.some.inj blamed).symm
  · rw [Option.ite_none_right_eq_some] at blamed
    exact Or.inr (Option.some.inj blamed.2).symm

theorem baseFault?_eq (meaning : String → Option Symbol) (field : Ident) (base : Expr)
    (diagnostic : Diagnostic) (blamed : baseFault? meaning field base = some diagnostic) :
    diagnostic = ⟨.colonAccessOfNonStruct, field.pos⟩ := by
  cases base with
  | id ident => cases blamed
  | access inner name exposed =>
    obtain ⟨symbol, _, same⟩ := Option.map_eq_some_iff.mp blamed
    exact same.symm
  | _ => exact (Option.some.inj blamed).symm

/-- A field is blamed where it stands. -/
theorem fault?_member (meaning : String → Option Symbol) (base : Expr) (field : Ident)
    (isBase : Bool) (diagnostic : Diagnostic)
    (blamed : (member base field isBase).fault? meaning = some diagnostic) :
    diagnostic.pos = field.pos ∧ diagnostic.kind.isOfUse = true := by
  simp only [fault?] at blamed
  split at blamed
  · cases baseFault?_eq meaning field base diagnostic blamed
    exact ⟨rfl, rfl⟩
  · split at blamed
    · cases blamed
      exact ⟨rfl, rfl⟩
    · rw [Option.ite_none_right_eq_some] at blamed
      cases blamed.2
      exact ⟨rfl, rfl⟩

/-- Every error of a use is one of uses. -/
theorem isOfUse_of_fault? (meaning : String → Option Symbol) (mention : Use)
    (diagnostic : Diagnostic) (blamed : mention.fault? meaning = some diagnostic) :
    diagnostic.kind.isOfUse = true := by
  cases mention with
  | reference ident isBase =>
    rcases fault?_reference meaning ident isBase diagnostic blamed with rfl | rfl <;> rfl
  | member base field isBase => exact (fault?_member meaning base field isBase _ blamed).2
  | access base field exposed => cases blamed

/-- A use at fault is a name, and it is blamed where it stands. -/
theorem pos_of_fault? (meaning : String → Option Symbol) (mention : Use)
    (diagnostic : Diagnostic) (blamed : mention.fault? meaning = some diagnostic) :
    ∃ name role, mention.given = .ident name role ∧ name.pos = diagnostic.pos := by
  cases mention with
  | reference ident isBase =>
    refine ⟨ident, .reference, rfl, ?_⟩
    rcases fault?_reference meaning ident isBase diagnostic blamed with rfl | rfl <;> rfl
  | member base field isBase =>
    exact ⟨field, .field, rfl, (fault?_member meaning base field isBase _ blamed).1.symm⟩
  | access base field exposed => cases blamed

end Use

mutual

theorem Expr.visits_eq_uses (isBase : Bool) : ∀ expr : Expr,
    expr.visits = (expr.uses isBase).map Use.given
  | .truth _ _ => rfl
  | .id _ => rfl
  | .intLit _ _ => rfl
  | .strLit _ _ => rfl
  | .access base field exposed => by
    rw [Expr.visits, Expr.uses, Expr.visits_eq_uses true base, List.map_append]
    rfl
  | .assign lhs rhs => by
    rw [Expr.visits, Expr.uses, Expr.visits_eq_uses false lhs, Expr.visits_eq_uses false rhs,
      List.map_append]
  | .call callee args => by
    rw [Expr.visits, Expr.uses, Expr.visitsOfList_eq_uses args]
    rfl
  | .unary _ operand => by rw [Expr.visits, Expr.uses, Expr.visits_eq_uses false operand]
  | .binary _ lhs rhs => by
    rw [Expr.visits, Expr.uses, Expr.visits_eq_uses false lhs, Expr.visits_eq_uses false rhs,
      List.map_append]

theorem Expr.visitsOfList_eq_uses : ∀ exprs : List Expr,
    Expr.visitsOfList exprs = (Expr.usesOfList exprs).map Use.given
  | [] => rfl
  | expr :: rest => by
    rw [Expr.visitsOfList, Expr.usesOfList, Expr.visits_eq_uses false expr,
      Expr.visitsOfList_eq_uses rest, List.map_append]

end

mutual

theorem Expr.visits_bound (meaning : String → Option Symbol) (isBase : Bool) : ∀ expr : Expr,
    (expr.bound meaning).visits = (expr.uses isBase).map (Use.found meaning)
  | .truth _ _ => rfl
  | .id _ => rfl
  | .intLit _ _ => rfl
  | .strLit _ _ => rfl
  | .access base field exposed => by
    rw [Expr.bound, Expr.visits, Expr.uses, Expr.visits_bound meaning true base, List.map_append]
    rfl
  | .assign lhs rhs => by
    rw [Expr.bound, Expr.visits, Expr.uses, Expr.visits_bound meaning false lhs,
      Expr.visits_bound meaning false rhs, List.map_append]
  | .call callee args => by
    rw [Expr.bound, Expr.visits, Expr.uses, Expr.visitsOfList_bound meaning args]
    rfl
  | .unary _ operand => by
    rw [Expr.bound, Expr.visits, Expr.uses, Expr.visits_bound meaning false operand]
  | .binary _ lhs rhs => by
    rw [Expr.bound, Expr.visits, Expr.uses, Expr.visits_bound meaning false lhs,
      Expr.visits_bound meaning false rhs, List.map_append]

theorem Expr.visitsOfList_bound (meaning : String → Option Symbol) : ∀ exprs : List Expr,
    Expr.visitsOfList (Expr.boundList meaning exprs) =
      (Expr.usesOfList exprs).map (Use.found meaning)
  | [] => rfl
  | expr :: rest => by
    rw [Expr.boundList, Expr.visitsOfList, Expr.usesOfList, Expr.visits_bound meaning false expr,
      Expr.visitsOfList_bound meaning rest, List.map_append]

end

/-! ### Binding an expression without symbols -/

theorem filterMap_cons_toList {α β : Type} (choose : α → Option β) (head : α) (tail : List α) :
    (head :: tail).filterMap choose = (choose head).toList ++ tail.filterMap choose := by
  rw [List.filterMap_cons]
  cases choose head <;> rfl

/-- Whether no symbol was found yet for what is met. -/
def Visit.isFresh : Visit → Bool
  | .ident occurrence _ => !occurrence.isBound
  | .access _ _ exposed => exposed.isNone

namespace Ident

theorem symbol_of_fresh (ident : Ident) (fresh : (!ident.isBound) = true) :
    ident.symbol = none := by
  simpa [isBound] using fresh

/-- An identifier without a symbol is one whose symbol is that it has none. -/
theorem with_symbol_none (ident : Ident) (fresh : ident.symbol = none) :
    { ident with symbol := none } = ident := by
  rw [← fresh]

end Ident

namespace SymbolTable

theorem find_eq (table : SymbolTable) (hasScope : table.scopes ≠ []) (name : String) :
    table.find name = .ok (table.visible? name) := by
  obtain ⟨scopes⟩ := table
  cases scopes with
  | nil => exact absurd rfl hasScope
  | cons innermost outer => rfl

theorem fieldsOf?_eq (table : SymbolTable) (symbol : Symbol) :
    table.fieldsOf? symbol = symbol.members? table.visible? :=
  (Option.bind_assoc _ _ _).symm

end SymbolTable

theorem Ident.resolve_value (table : SymbolTable) (hasScope : table.scopes ≠ []) (ident : Ident)
    (fresh : ident.symbol = none) :
    (ident.resolve table).value = { ident with symbol := table.visible? ident.name } := by
  unfold resolve
  rw [table.find_eq hasScope]
  cases table.visible? ident.name with
  | none => exact (ident.with_symbol_none fresh).symm
  | some symbol => rfl

theorem Ident.resolve_reports (table : SymbolTable) (hasScope : table.scopes ≠ []) (ident : Ident) :
    (ident.resolve table).trace.diagnostics =
      ((Use.reference ident false).fault? table.visible?).toList := by
  simp only [resolve, Use.fault?, table.find_eq hasScope]
  cases table.visible? ident.name with
  | none => rfl
  | some symbol => rfl

namespace Expr

/-- The error of the last name of a base that is bound and has no fields. -/
def followFault? (meaning : String → Option Symbol) : Expr → Option Diagnostic
  | id ident =>
    match meaning ident.name with
    | none => none
    | some symbol =>
      if (symbol.members? meaning).isNone then some ⟨.colonAccessOfNonStruct, ident.pos⟩ else none
  | access base field exposed =>
    match (access base field exposed).denoted? meaning with
    | none => none
    | some symbol =>
      if (symbol.structType? meaning).isNone then some ⟨.invalidStructFieldName, field.pos⟩
      else none
  | _ => none

/-- An access that follows an expression can only add to the blame of its last name. -/
theorem faults_uses_true (meaning : String → Option Symbol) (base : Expr) :
    (base.uses true).filterMap (Use.fault? meaning) =
      (base.uses false).filterMap (Use.fault? meaning) ++ (base.followFault? meaning).toList := by
  cases base with
  | id ident =>
    simp only [uses, List.filterMap_cons, List.filterMap_nil, Use.fault?, followFault?]
    cases meaning ident.name with
    | none => rfl
    | some symbol => cases symbol.members? meaning <;> rfl
  | access base field exposed =>
    have denoted : (access base field exposed).denoted? meaning =
        (base.members? meaning).bind fun members => members.find? field.name := rfl
    simp only [uses, List.filterMap_append, filterMap_cons_toList, List.filterMap_nil, Use.fault?,
      followFault?, denoted, List.append_assoc]
    cases base.members? meaning with
    | none => simp
    | some members =>
      cases located : members.find? field.name with
      | none => simp [located]
      | some symbol => cases declared : symbol.structType? meaning <;> simp [located, declared]
  | _ => simp [uses, followFault?]

theorem members?_eq (meaning : String → Option Symbol) (expr : Expr) :
    expr.members? meaning = (expr.exposed? meaning).bind Symbol.fields? :=
  (Option.bind_assoc _ _ _).symm

/-- A bound base gives the fields that it denotes. -/
theorem selectable_value (table : SymbolTable) (pos : Position) (base : Expr) :
    ((base.bound table.visible?).selectable table pos).value = base.members? table.visible? := by
  cases base with
  | id ident =>
    have members : (id ident).members? table.visible? =
        (table.visible? ident.name).bind (Symbol.members? table.visible?) := rfl
    rw [bound, members]
    cases table.visible? ident.name with
    | none => rfl
    | some symbol =>
      simp only [selectable, table.fieldsOf?_eq, Option.bind_some]
      cases symbol.members? table.visible? <;> rfl
  | access base field exposed =>
    rw [bound, members?_eq]
    cases (access base field exposed).exposed? table.visible? with
    | none => simp only [selectable]; split <;> rfl
    | some symbol =>
      simp only [selectable, Option.bind_some]
      cases symbol.fields? <;> rfl
  | _ => rfl

/-- A bound base without fields is reported at its last name, or else where the access has its
field. -/
theorem selectable_reports (table : SymbolTable) (field : Ident) (base : Expr) :
    ((base.bound table.visible?).selectable table field.pos).trace.diagnostics =
      (base.followFault? table.visible?).toList ++
        (match base.members? table.visible? with
          | none => Use.baseFault? table.visible? field base
          | some _ => none).toList := by
  cases base with
  | id ident =>
    have members : (id ident).members? table.visible? =
        (table.visible? ident.name).bind (Symbol.members? table.visible?) := rfl
    rw [bound, members, followFault?]
    cases table.visible? ident.name with
    | none => rfl
    | some symbol =>
      simp only [selectable, table.fieldsOf?_eq, Option.bind_some]
      cases symbol.members? table.visible? <;> rfl
  | access base inner exposed =>
    rw [bound, members?_eq, followFault?, Use.baseFault?, exposed?]
    cases (access base inner exposed).denoted? table.visible? with
    | none => rfl
    | some symbol =>
      simp only [Option.bind_some]
      cases symbol.structType? table.visible? with
      | none => rfl
      | some definition =>
        simp only [selectable, Option.bind_some]
        cases definition.fields? <;> rfl
  | _ => rfl

/-- What an access becomes once the fields are known that its base gives. -/
theorem select_value (table : SymbolTable) (base : Expr) (field : Ident) (members : FieldTable)
    (fresh : field.symbol = none)
    (reached : base.members? table.visible? = some members) :
    ((base.bound table.visible?).select table field none members).value =
      (access base field none).bound table.visible? := by
  have denoted : (access base field none).denoted? table.visible? = members.find? field.name := by
    show ((base.members? table.visible?).bind fun members => members.find? field.name) = _
    rw [reached, Option.bind_some]
  rw [bound, exposed?, denoted, select]
  cases members.find? field.name with
  | none => rw [field.with_symbol_none fresh]; rfl
  | some symbol =>
    simp only [Traced.value_bind, Traced.value_pure, Option.bind_some, Symbol.structType?]
    cases symbol.structName? <;> rfl

theorem select_reports (table : SymbolTable) (base : Expr) (field : Ident)
    (exposed : Option Symbol) (members : FieldTable) :
    (base.select table field exposed members).trace.diagnostics =
      match members.find? field.name with
      | none => [⟨.undeclared, field.pos⟩]
      | some _ => [] := by
  rw [select]
  cases members.find? field.name with
  | none => rfl
  | some symbol => rfl

mutual

/-- Binding the names of an expression without symbols binds each to what it denotes. -/
theorem resolve_value (table : SymbolTable) (hasScope : table.scopes ≠ []) : ∀ expr : Expr,
    (∀ visit ∈ expr.visits, visit.isFresh = true) →
      (expr.resolve table).value = expr.bound table.visible?
  | truth _ _, _ => rfl
  | id ident, fresh => by
    have unbound := ident.symbol_of_fresh (fresh _ List.mem_cons_self)
    rw [resolve, bound, Traced.value_bind, ident.resolve_value table hasScope unbound]
    rfl
  | intLit _ _, _ => rfl
  | strLit _ _, _ => rfl
  | access base field exposed, fresh => by
    rw [visits, List.forall_mem_append, List.forall_mem_cons, List.forall_mem_singleton] at fresh
    obtain ⟨baseFresh, fieldFresh, accessFresh⟩ := fresh
    have unbound := field.symbol_of_fresh fieldFresh
    obtain rfl : exposed = none := Option.isNone_iff_eq_none.mp accessFresh
    rw [resolve, Traced.value_bind, Traced.value_bind, resolve_value table hasScope base baseFresh,
      selectable_value]
    cases reached : base.members? table.visible? with
    | none =>
      have denoted : (access base field none).denoted? table.visible? = none := by
        show ((base.members? table.visible?).bind fun members => members.find? field.name) = _
        rw [reached, Option.bind_none]
      rw [bound, exposed?, denoted, field.with_symbol_none unbound]
      rfl
    | some members => exact select_value table base field members unbound reached
  | assign lhs rhs, fresh => by
    rw [visits, List.forall_mem_append] at fresh
    simp only [resolve, bound, Traced.value_bind, Traced.value_pure,
      resolve_value table hasScope lhs fresh.1, resolve_value table hasScope rhs fresh.2]
  | call callee args, fresh => by
    rw [visits, List.forall_mem_cons] at fresh
    have unbound := callee.symbol_of_fresh fresh.1
    simp only [resolve, bound, Traced.value_bind, Traced.value_pure,
      callee.resolve_value table hasScope unbound, resolveList_value table hasScope args fresh.2]
  | unary op operand, fresh => by
    rw [visits] at fresh
    simp only [resolve, bound, Traced.value_bind, Traced.value_pure,
      resolve_value table hasScope operand fresh]
  | binary op lhs rhs, fresh => by
    rw [visits, List.forall_mem_append] at fresh
    simp only [resolve, bound, Traced.value_bind, Traced.value_pure,
      resolve_value table hasScope lhs fresh.1, resolve_value table hasScope rhs fresh.2]

theorem resolveList_value (table : SymbolTable) (hasScope : table.scopes ≠ []) :
    ∀ exprs : List Expr, (∀ visit ∈ visitsOfList exprs, visit.isFresh = true) →
      (resolveList table exprs).value = boundList table.visible? exprs
  | [], _ => rfl
  | expr :: rest, fresh => by
    rw [visitsOfList, List.forall_mem_append] at fresh
    simp only [resolveList, boundList, Traced.value_bind, Traced.value_pure,
      resolve_value table hasScope expr fresh.1, resolveList_value table hasScope rest fresh.2]

end

mutual

/-- Binding the names of an expression without symbols reports the uses at fault, in their order. -/
theorem resolve_reports (table : SymbolTable) (hasScope : table.scopes ≠ []) : ∀ expr : Expr,
    (∀ visit ∈ expr.visits, visit.isFresh = true) →
      (expr.resolve table).trace.diagnostics =
        (expr.uses false).filterMap (Use.fault? table.visible?)
  | truth _ _, _ => rfl
  | id ident, _ => by
    simp only [resolve, uses, Traced.trace_bind, Traced.trace_pure, List.append_nil,
      ident.resolve_reports table hasScope, filterMap_cons_toList, List.filterMap_nil]
  | intLit _ _, _ => rfl
  | strLit _ _, _ => rfl
  | access base field exposed, fresh => by
    rw [visits, List.forall_mem_append] at fresh
    simp only [resolve, uses, Traced.trace_bind, Trace.diagnostics_append,
      resolve_value table hasScope base fresh.1, resolve_reports table hasScope base fresh.1,
      selectable_value, selectable_reports, List.filterMap_append, faults_uses_true,
      List.append_assoc, filterMap_cons_toList, List.filterMap_nil, Use.fault?, List.append_nil]
    congr 2
    cases base.members? table.visible? with
    | none => rfl
    | some members =>
      simp only [select_reports]
      cases members.find? field.name <;> rfl
  | assign lhs rhs, fresh => by
    rw [visits, List.forall_mem_append] at fresh
    simp only [resolve, uses, Traced.trace_bind, Traced.trace_pure, Trace.diagnostics_append,
      List.append_nil, List.filterMap_append, resolve_reports table hasScope lhs fresh.1,
      resolve_reports table hasScope rhs fresh.2]
  | call callee args, fresh => by
    rw [visits, List.forall_mem_cons] at fresh
    simp only [resolve, uses, Traced.trace_bind, Traced.trace_pure, Trace.diagnostics_append,
      List.append_nil, filterMap_cons_toList, callee.resolve_reports table hasScope,
      resolveList_reports table hasScope args fresh.2]
  | unary op operand, fresh => by
    rw [visits] at fresh
    simp only [resolve, uses, Traced.trace_bind, Traced.trace_pure, List.append_nil,
      resolve_reports table hasScope operand fresh]
  | binary op lhs rhs, fresh => by
    rw [visits, List.forall_mem_append] at fresh
    simp only [resolve, uses, Traced.trace_bind, Traced.trace_pure, Trace.diagnostics_append,
      List.append_nil, List.filterMap_append, resolve_reports table hasScope lhs fresh.1,
      resolve_reports table hasScope rhs fresh.2]

theorem resolveList_reports (table : SymbolTable) (hasScope : table.scopes ≠ []) :
    ∀ exprs : List Expr, (∀ visit ∈ visitsOfList exprs, visit.isFresh = true) →
      (resolveList table exprs).trace.diagnostics =
        (usesOfList exprs).filterMap (Use.fault? table.visible?)
  | [], _ => rfl
  | expr :: rest, fresh => by
    rw [visitsOfList, List.forall_mem_append] at fresh
    simp only [resolveList, usesOfList, Traced.trace_bind, Traced.trace_pure,
      Trace.diagnostics_append, List.append_nil, List.filterMap_append,
      resolve_reports table hasScope expr fresh.1, resolveList_reports table hasScope rest fresh.2]

end

end Expr

end NameBinding
