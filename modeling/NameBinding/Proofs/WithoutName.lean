/-
This file takes a name out of a table. All other names stand for what they did, whether a scope had
the name before them, after them or not at all. If no symbol of the table leads to the name, as the
struct type of a value or of a field, then an expression in which the name does not occur denotes
the same with it and without it, and the same of its uses are at fault.
-/

import NameBinding.Proofs.Accounts

namespace NameBinding

open Declarable (accept isTaken)

/-! ### Tables without a name -/

/-- A scope with a name taken out. -/
def Scope.without {α : Type} (name : String) (scope : Scope α) : Scope α :=
  ⟨scope.entries.filter fun entry => entry.1 != name⟩

/-- A table with a name taken out of all its scopes. -/
def SymbolTable.without (name : String) (table : SymbolTable) : SymbolTable :=
  ⟨table.scopes.map (Scope.without name)⟩

namespace Scope

theorem find?_without {α : Type} (scope : Scope α) {name other : String}
    (different : other ≠ name) : (scope.without name).find? other = scope.find? other :=
  lookup_filter_ne scope.entries other name different

theorem find?_without_self {α : Type} (scope : Scope α) (name : String) :
    (scope.without name).find? name = none := by
  refine List.lookup_eq_none_iff.mpr fun entry kept => ?_
  have different := (List.mem_filter.mp kept).2
  rwa [bne_comm] at different

theorem mem_of_find? {α : Type} {scope : Scope α} {name : String} {value : α}
    (found : scope.find? name = some value) : (name, value) ∈ scope.entries := by
  obtain ⟨before, after, split, _⟩ := List.lookup_eq_some_iff.mp found
  rw [split]
  exact List.mem_append_right before List.mem_cons_self

/-- A declaration is added at the end or not at all. -/
theorem accept_eq (scope : Scope Symbol) (binding : String × Symbol) :
    accept (σ := FieldTable) scope binding =
      if (scope.find? binding.1).isSome then scope else ⟨scope.entries ++ [binding]⟩ := by
  have declared : Declarable.declare (σ := FieldTable) scope binding.1 binding.2 =
      scope.declare binding.1 binding.2 := rfl
  rw [accept, declared, declare]
  cases scope.find? binding.1 <;> rfl

theorem accept_without (scope : Scope Symbol) {name : String} {binding : String × Symbol}
    (different : binding.1 ≠ name) :
    (accept (σ := FieldTable) scope binding).without name =
      accept (σ := FieldTable) (scope.without name) binding := by
  rw [accept_eq, accept_eq, scope.find?_without different]
  split
  · rfl
  · have kept : [binding].filter (fun entry => entry.1 != name) = [binding] := by simp [different]
    rw [without, List.filter_append, kept]
    rfl

theorem accept_without_self (scope : Scope Symbol) (name : String) (symbol : Symbol) :
    (accept (σ := FieldTable) scope (name, symbol)).without name = scope.without name := by
  rw [accept_eq]
  split
  · rfl
  · have dropped : [(name, symbol)].filter (fun entry => entry.1 != name) = [] := by simp
    rw [without, List.filter_append, dropped, List.append_nil]
    rfl

end Scope

namespace SymbolTable

theorem without_noScope {table : SymbolTable} {name : String} (noScope : table.scopes = []) :
    table.without name = table := by
  obtain ⟨scopes⟩ := table
  cases noScope
  rfl

theorem without_hasScope {table : SymbolTable} {name : String} (hasScope : table.scopes ≠ []) :
    (table.without name).scopes ≠ [] := by
  simpa [without] using hasScope

theorem visible?_without (table : SymbolTable) {name other : String} (different : other ≠ name) :
    (table.without name).visible? other = table.visible? other := by
  have same : (fun scope : Scope Symbol => scope.find? other) ∘ Scope.without name =
      fun scope => scope.find? other := by
    funext scope
    exact scope.find?_without different
  rw [visible?, visible?, without, List.findSome?_map, same]

theorem isTaken_cons (innermost : Scope Symbol) (outer : List (Scope Symbol)) (name : String) :
    isTaken (σ := SymbolTable) ⟨innermost :: outer⟩ name = (innermost.find? name).isSome :=
  isTaken_scope innermost name

theorem isTaken_without (table : SymbolTable) {name other : String} (different : other ≠ name) :
    isTaken (table.without name) other = isTaken table other := by
  obtain ⟨scopes⟩ := table
  cases scopes with
  | nil => rfl
  | cons innermost outer =>
    rw [without, List.map_cons, isTaken_cons, isTaken_cons, innermost.find?_without different]

/-- A name that was taken out is not taken. -/
theorem isTaken_without_self (table : SymbolTable) (name : String) :
    isTaken (table.without name) name = false := by
  obtain ⟨scopes⟩ := table
  cases scopes with
  | nil => rfl
  | cons innermost outer =>
    rw [without, List.map_cons, isTaken_cons, innermost.find?_without_self]
    rfl

theorem accept_without (table : SymbolTable) {name : String} {binding : String × Symbol}
    (different : binding.1 ≠ name) :
    (accept table binding).without name = accept (table.without name) binding := by
  obtain ⟨scopes⟩ := table
  cases scopes with
  | nil => rfl
  | cons innermost outer =>
    rw [accept_cons, without, without, List.map_cons, List.map_cons, accept_cons,
      innermost.accept_without different]

theorem accept_without_self (table : SymbolTable) (name : String) (symbol : Symbol) :
    (accept table (name, symbol)).without name = table.without name := by
  obtain ⟨scopes⟩ := table
  cases scopes with
  | nil => rfl
  | cons innermost outer =>
    rw [accept_cons, without, without, List.map_cons, List.map_cons, innermost.accept_without_self]

end SymbolTable

/-! ### Symbols that do not lead to a name -/

/-- Whether a symbol does not lead to a name, neither as the struct type of a value nor as that of a
field. -/
structure Symbol.Avoids (name : String) (symbol : Symbol) : Prop where
  value : symbol.structName? ≠ some name
  fields : ∀ fields, symbol.fields? = some fields →
    ∀ entry ∈ fields.entries, entry.2.structName? ≠ some name

/-- Whether no symbol of a table leads to a name. -/
def SymbolTable.Avoids (name : String) (table : SymbolTable) : Prop :=
  ∀ scope ∈ table.scopes, ∀ entry ∈ scope.entries, entry.2.Avoids name

/-- Whether a thing met has no symbol yet and is not an occurrence of a name. -/
def Visit.IsApartFrom (name : String) : Visit → Prop
  | ident occurrence _ => occurrence.symbol = none ∧ occurrence.name ≠ name
  | access _ _ exposed => exposed = none

theorem Visit.IsApartFrom.fresh {name : String} {visit : Visit} (apart : visit.IsApartFrom name) :
    visit.isFresh = true := by
  cases visit with
  | ident occurrence role =>
    rw [isFresh, Ident.isBound, apart.1]
    rfl
  | access base field exposed => exact Option.isNone_iff_eq_none.mpr apart

section

variable {name : String}

theorem TypeName.symbol_avoids (type : TypeName)
    (apart : ∀ visit ∈ type.visits, visit.IsApartFrom name) : type.symbol.Avoids name := by
  cases type with
  | struct structName =>
    have different := (apart _ List.mem_cons_self).2
    exact ⟨fun same => different (Option.some.inj same), nofun⟩
  | _ => exact ⟨nofun, nofun⟩

theorem fieldTable_avoids (fields : List VarDecl)
    (apart : ∀ visit ∈ fields.flatMap VarDecl.visits, visit.IsApartFrom name) :
    (Symbol.structDefinition (fieldTable fields)).Avoids name := by
  refine ⟨nofun, ?_⟩
  rintro _ ⟨⟩ entry member
  obtain ⟨field, among, rfl⟩ := List.mem_map.mp (firstOfEach_subset _ member)
  have declared := (List.mem_filter.mp among).1
  refine (field.type.symbol_avoids fun visit met => apart visit ?_).value
  exact List.mem_flatMap.mpr ⟨field, declared, List.mem_append_left _ met⟩

namespace SymbolTable.Avoids

theorem new : SymbolTable.new.Avoids name := by
  intro scope member entry within
  cases List.mem_singleton.mp member
  cases within

theorem push {table : SymbolTable} (avoids : table.Avoids name) : table.push.Avoids name := by
  intro scope member entry within
  rcases List.mem_cons.mp member with rfl | outer
  · cases within
  · exact avoids scope outer entry within

theorem accept {table : SymbolTable} {binding : String × Symbol} (avoids : table.Avoids name)
    (declared : binding.2.Avoids name) : (Declarable.accept table binding).Avoids name := by
  obtain ⟨scopes⟩ := table
  cases scopes with
  | nil => exact avoids
  | cons innermost outer =>
    rw [accept_cons, Scope.accept_eq]
    intro scope member entry within
    rcases List.mem_cons.mp member with rfl | around
    · split at within
      · exact avoids innermost List.mem_cons_self entry within
      · rcases List.mem_append.mp within with before | last
        · exact avoids innermost List.mem_cons_self entry before
        · rwa [List.mem_singleton.mp last]
    · exact avoids scope (List.mem_cons_of_mem innermost around) entry within

/-- No symbol that a name stands for leads to the name that is avoided. -/
theorem visible? {table : SymbolTable} (avoids : table.Avoids name) {other : String}
    {symbol : Symbol} (found : table.visible? other = some symbol) : symbol.Avoids name := by
  obtain ⟨scope, member, located⟩ := List.exists_of_findSome?_eq_some found
  exact avoids scope member _ (Scope.mem_of_find? located)

end SymbolTable.Avoids

end

/-! ### Expressions -/

/-- Whether two readings of names differ in one name at most, and no symbol leads to that name. -/
structure AgreeApartFrom (name : String) (meaning meaning' : String → Option Symbol) : Prop where
  same : ∀ other, other ≠ name → meaning other = meaning' other
  avoids : ∀ other symbol, meaning other = some symbol → symbol.Avoids name

theorem SymbolTable.Avoids.agree {name : String} {table : SymbolTable}
    (avoids : table.Avoids name) :
    AgreeApartFrom name table.visible? (table.without name).visible? where
  same _ different := (table.visible?_without different).symm
  avoids _ _ found := avoids.visible? found

section

variable {name : String} {meaning meaning' : String → Option Symbol}
  (agree : AgreeApartFrom name meaning meaning')

include agree

namespace Symbol

theorem structType?_same (symbol : Symbol) (avoids : symbol.structName? ≠ some name) :
    symbol.structType? meaning = symbol.structType? meaning' := by
  rw [structType?, structType?]
  cases found : symbol.structName? with
  | none => rfl
  | some other => exact agree.same other fun same => avoids (found.trans (congrArg some same))

theorem members?_same (symbol : Symbol) (avoids : symbol.structName? ≠ some name) :
    symbol.members? meaning = symbol.members? meaning' := by
  rw [members?, members?, symbol.structType?_same agree avoids]

theorem members?_avoids (symbol : Symbol) {fields : FieldTable}
    (found : symbol.members? meaning = some fields) :
    ∀ entry ∈ fields.entries, entry.2.structName? ≠ some name := by
  obtain ⟨definition, named, opened⟩ := Option.bind_eq_some_iff.mp found
  obtain ⟨structName, _, visible⟩ := Option.bind_eq_some_iff.mp named
  exact (agree.avoids structName definition visible).fields fields opened

end Symbol

namespace Expr

theorem denoted?_avoids : ∀ (expr : Expr) (symbol : Symbol),
    expr.denoted? meaning = some symbol → symbol.structName? ≠ some name
  | id ident, symbol, found => (agree.avoids ident.name symbol found).value
  | access base field _, symbol, found => by
    obtain ⟨members, reached, located⟩ := Option.bind_eq_some_iff.mp found
    obtain ⟨owner, _, opened⟩ := Option.bind_eq_some_iff.mp reached
    exact owner.members?_avoids agree opened _ (Scope.mem_of_find? located)

theorem denoted?_same : ∀ expr : Expr, (∀ visit ∈ expr.visits, visit.IsApartFrom name) →
    expr.denoted? meaning = expr.denoted? meaning'
  | id ident, apart => agree.same ident.name (apart _ List.mem_cons_self).2
  | access base field _, apart => by
    rw [visits, List.forall_mem_append] at apart
    have sameBase := denoted?_same base apart.1
    rw [denoted?, denoted?, ← sameBase]
    cases reached : base.denoted? meaning with
    | none => rfl
    | some owner =>
      have avoids := base.denoted?_avoids agree owner reached
      rw [Option.bind_some, Option.bind_some, owner.members?_same agree avoids]
  | truth _ _, _ | intLit _ _, _ | strLit _ _, _ | assign _ _, _ | call _ _, _ | unary _ _, _
  | binary _ _ _, _ => rfl

theorem members?_same (expr : Expr) (apart : ∀ visit ∈ expr.visits, visit.IsApartFrom name) :
    expr.members? meaning = expr.members? meaning' := by
  rw [members?, members?, ← expr.denoted?_same agree apart]
  cases denoted : expr.denoted? meaning with
  | none => rfl
  | some symbol => exact symbol.members?_same agree (expr.denoted?_avoids agree symbol denoted)

theorem exposed?_same (expr : Expr) (apart : ∀ visit ∈ expr.visits, visit.IsApartFrom name) :
    expr.exposed? meaning = expr.exposed? meaning' := by
  rw [exposed?, exposed?, ← expr.denoted?_same agree apart]
  cases denoted : expr.denoted? meaning with
  | none => rfl
  | some symbol => exact symbol.structType?_same agree (expr.denoted?_avoids agree symbol denoted)

end Expr

namespace Use

theorem fault?_reference_same (ident : Ident) (isBase : Bool) (different : ident.name ≠ name) :
    (reference ident isBase).fault? meaning = (reference ident isBase).fault? meaning' := by
  rw [fault?, fault?, ← agree.same ident.name different]
  cases found : meaning ident.name with
  | none => rfl
  | some symbol =>
    have avoids := (agree.avoids ident.name symbol found).value
    simp only [symbol.members?_same agree avoids]

theorem baseFault?_same (field : Ident) (base : Expr)
    (apart : ∀ visit ∈ base.visits, visit.IsApartFrom name) :
    baseFault? meaning field base = baseFault? meaning' field base := by
  cases base with
  | access base inner exposed =>
    rw [baseFault?, baseFault?, (Expr.access base inner exposed).exposed?_same agree apart]
  | _ => rfl

theorem fault?_member_same (base : Expr) (field : Ident) (isBase : Bool)
    (apart : ∀ visit ∈ base.visits, visit.IsApartFrom name) :
    (member base field isBase).fault? meaning = (member base field isBase).fault? meaning' := by
  rw [fault?, fault?, baseFault?_same agree field base apart, ← base.members?_same agree apart]
  cases reached : base.members? meaning with
  | none => rfl
  | some members =>
    cases located : members.find? field.name with
    | none => simp only [located]
    | some symbol =>
      obtain ⟨owner, _, opened⟩ := Option.bind_eq_some_iff.mp reached
      have avoids := owner.members?_avoids agree opened _ (Scope.mem_of_find? located)
      simp only [located, symbol.structType?_same agree avoids]

end Use

end

section

variable {name : String} {meaning meaning' : String → Option Symbol}

namespace Expr

mutual

theorem bound_same (agree : AgreeApartFrom name meaning meaning') : ∀ expr : Expr,
    (∀ visit ∈ expr.visits, visit.IsApartFrom name) → expr.bound meaning = expr.bound meaning'
  | truth _ _, _ | intLit _ _, _ | strLit _ _, _ => rfl
  | id ident, apart => by
    have same := agree.same ident.name (apart _ List.mem_cons_self).2
    rw [bound, bound, same]
  | access base field exposed, apart => by
    have sameSymbol := (access base field exposed).denoted?_same agree apart
    have sameExposed := (access base field exposed).exposed?_same agree apart
    rw [visits, List.forall_mem_append] at apart
    rw [bound, bound, sameSymbol, sameExposed, bound_same agree base apart.1]
  | assign lhs rhs, apart | binary _ lhs rhs, apart => by
    rw [visits, List.forall_mem_append] at apart
    rw [bound, bound, bound_same agree lhs apart.1, bound_same agree rhs apart.2]
  | call callee args, apart => by
    rw [visits, List.forall_mem_cons] at apart
    have same := agree.same callee.name apart.1.2
    rw [bound, bound, same, boundList_same agree args apart.2]
  | unary op operand, apart => by
    rw [visits] at apart
    rw [bound, bound, bound_same agree operand apart]

theorem boundList_same (agree : AgreeApartFrom name meaning meaning') : ∀ exprs : List Expr,
    (∀ visit ∈ visitsOfList exprs, visit.IsApartFrom name) →
      boundList meaning exprs = boundList meaning' exprs
  | [], _ => rfl
  | expr :: rest, apart => by
    rw [visitsOfList, List.forall_mem_append] at apart
    rw [boundList, boundList, bound_same agree expr apart.1, boundList_same agree rest apart.2]

end

end Expr

mutual

theorem Expr.faults_same (agree : AgreeApartFrom name meaning meaning') (isBase : Bool) :
    ∀ expr : Expr,
    (∀ visit ∈ expr.visits, visit.IsApartFrom name) →
      (expr.uses isBase).filterMap (Use.fault? meaning) =
        (expr.uses isBase).filterMap (Use.fault? meaning')
  | .truth _ _, _ | .intLit _ _, _ | .strLit _ _, _ => rfl
  | .id ident, apart => by
    have same := Use.fault?_reference_same agree ident isBase (apart _ List.mem_cons_self).2
    rw [Expr.uses, filterMap_cons_toList, filterMap_cons_toList, same]
    rfl
  | .access base field exposed, apart => by
    rw [Expr.visits, List.forall_mem_append] at apart
    have same := Use.fault?_member_same agree base field isBase apart.1
    rw [Expr.uses, List.filterMap_append, List.filterMap_append,
      Expr.faults_same agree true base apart.1, filterMap_cons_toList,
      filterMap_cons_toList (Use.fault? meaning'), same]
    rfl
  | .assign lhs rhs, apart | .binary _ lhs rhs, apart => by
    rw [Expr.visits, List.forall_mem_append] at apart
    rw [Expr.uses, List.filterMap_append, List.filterMap_append,
      Expr.faults_same agree false lhs apart.1, Expr.faults_same agree false rhs apart.2]
  | .call callee args, apart => by
    rw [Expr.visits, List.forall_mem_cons] at apart
    have same := Use.fault?_reference_same agree callee false apart.1.2
    rw [Expr.uses, filterMap_cons_toList, filterMap_cons_toList, same,
      Expr.faultsOfList_same agree args apart.2]
  | .unary op operand, apart => by
    rw [Expr.visits] at apart
    rw [Expr.uses, Expr.faults_same agree false operand apart]

theorem Expr.faultsOfList_same (agree : AgreeApartFrom name meaning meaning') :
    ∀ exprs : List Expr,
    (∀ visit ∈ Expr.visitsOfList exprs, visit.IsApartFrom name) →
      (Expr.usesOfList exprs).filterMap (Use.fault? meaning) =
        (Expr.usesOfList exprs).filterMap (Use.fault? meaning')
  | [], _ => rfl
  | expr :: rest, apart => by
    rw [Expr.visitsOfList, List.forall_mem_append] at apart
    rw [Expr.usesOfList, List.filterMap_append, List.filterMap_append,
      Expr.faults_same agree false expr apart.1, Expr.faultsOfList_same agree rest apart.2]

end

end

end NameBinding
