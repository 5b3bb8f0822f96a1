/-
This file joins the two steps in which a function gets its signature. The function is declared with
its return type only, and the types of its parameters are attached when its formals have been
declared in the scope of the function. Declaring them looks at the scopes around for struct types
only, so the signature does not matter until then, and the attaching finds the symbol where it was
declared, without parameters. Together this is the same as if the function had been declared with
its complete signature, and no list of parameters is ever attached to a function that has one.
-/

import NameBinding.Proofs.Traced

namespace NameBinding

variable {α β : Type}

/-! ### Declaring in the innermost scope -/

/-- The outcome of a step on a scope as one on the table whose innermost scope it is. -/
def Traced.within (outer : List (Scope Symbol)) (outcome : Traced (α × FieldTable)) :
    Traced (α × SymbolTable) :=
  ⟨(outcome.value.1, ⟨outcome.value.2 :: outer⟩), outcome.trace⟩

/-- A symbol is declared without a look at the scopes around. -/
theorem declareSymbol_within (name : Ident) (symbol : Symbol) (scope : Scope Symbol)
    (outer : List (Scope Symbol)) :
    (declareSymbol (σ := SymbolTable) name symbol).run ⟨scope :: outer⟩ =
      ((declareSymbol (σ := FieldTable) name symbol).run scope).within outer := by
  have tableHas : Declarable.findLocal (σ := SymbolTable) ⟨scope :: outer⟩ name.name =
      .ok (scope.find? name.name) := rfl
  have scopeHas : Declarable.findLocal (σ := FieldTable) scope name.name =
      .ok (scope.find? name.name) := rfl
  have tableTakes : Declarable.declare (σ := SymbolTable) ⟨scope :: outer⟩ name.name symbol =
      (scope.declare name.name symbol).map fun next => ⟨next :: outer⟩ := rfl
  have scopeTakes : Declarable.declare (σ := FieldTable) scope name.name symbol =
      scope.declare name.name symbol := rfl
  unfold declareSymbol
  simp only [StateT.run_bind, StateT.run_get, Traced.pure_bind, tableHas, scopeHas]
  cases scope.find? name.name with
  | some found => rfl
  | none =>
    simp only [StateT.run_bind, StateT.run_get, Traced.pure_bind, tableTakes, scopeTakes]
    cases scope.declare name.name symbol with
    | ok next => rfl
    | error reason => cases reason <;> rfl

/-! ### Formals -/

/-- Whether the same names are visible as those of struct types in two stacks of scopes. -/
def SameStructs (outer outer' : List (Scope Symbol)) : Prop :=
  ∀ name, (SymbolTable.mk outer).definesStruct name = (SymbolTable.mk outer').definesStruct name

namespace SameStructs

variable {outer outer' : List (Scope Symbol)}

/-- Another scope is opened around a place in both. -/
theorem cons (same : SameStructs outer outer') (scope : Scope Symbol) :
    SameStructs (scope :: outer) (scope :: outer') := by
  intro name
  have around := same name
  simp only [SymbolTable.definesStruct, SymbolTable.visible?, List.findSome?_cons] at around ⊢
  cases scope.find? name with
  | some symbol => rfl
  | none => exact around

theorem check_eq (same : SameStructs outer outer') (type : TypeName) :
    type.check ⟨outer⟩ = type.check ⟨outer'⟩ := by
  cases type with
  | struct name => rw [TypeName.check, TypeName.check, same name.name]
  | _ => rfl

/-- A formal is declared in the same way in both. -/
theorem declareTyped_within (same : SameStructs outer outer') (type : TypeName) (name : Ident)
    (scope : Scope Symbol) :
    ∃ outcome : Traced (Option Symbol × FieldTable),
      (declareTyped ⟨scope :: outer⟩ type name).run ⟨scope :: outer⟩ = outcome.within outer ∧
        (declareTyped ⟨scope :: outer'⟩ type name).run ⟨scope :: outer'⟩ =
          outcome.within outer' := by
  by_cases void : type.isVoid = true
  · refine ⟨⟨(none, scope), [.reported ⟨.nonFunctionVoid, name.pos⟩]⟩, ?_, ?_⟩ <;>
      rw [declareTyped, if_pos void] <;> rfl
  · let declared := (declareSymbol (σ := FieldTable) name type.symbol).run scope
    refine ⟨⟨declared.value, (type.check ⟨scope :: outer⟩).trace ++ declared.trace⟩, ?_, ?_⟩
    · rw [declareTyped, if_neg void, run_lift_bind, declareSymbol_within]
      rfl
    · rw [declareTyped, if_neg void, run_lift_bind, declareSymbol_within,
        (same.cons scope).check_eq type]
      rfl

/-- Formals are declared in the same way in both. -/
theorem declareList_within (same : SameStructs outer outer') (formals : List Formal)
    (scope : Scope Symbol) :
    ∃ outcome : Traced (Unit × FieldTable),
      (Formal.declareList formals).run ⟨scope :: outer⟩ = outcome.within outer ∧
        (Formal.declareList formals).run ⟨scope :: outer'⟩ = outcome.within outer' := by
  induction formals generalizing scope with
  | nil => exact ⟨⟨((), scope), []⟩, rfl, rfl⟩
  | cons formal rest inductionHypothesis =>
    obtain ⟨first, inOuter, inOuter'⟩ :=
      same.declareTyped_within formal.type formal.name scope
    obtain ⟨later, restOuter, restOuter'⟩ := inductionHypothesis first.value.2
    refine ⟨⟨later.value, first.trace ++ later.trace⟩, ?_, ?_⟩
    · simp only [Formal.declareList, StateT.run_bind, StateT.run_get, Traced.pure_bind, inOuter]
      exact congrArg (fun outcome => first.within outer >>= fun _ => outcome) restOuter
    · simp only [Formal.declareList, StateT.run_bind, StateT.run_get, Traced.pure_bind, inOuter']
      exact congrArg (fun outcome => first.within outer' >>= fun _ => outcome) restOuter'

end SameStructs

/-! ### The symbol that is filled in -/

namespace Scope

/-- A scope with one more declaration, of a name that it does not have. -/
def extended (scope : Scope Symbol) (name : String) (symbol : Symbol) : Scope Symbol :=
  ⟨scope.entries ++ [(name, symbol)]⟩

theorem find?_extended (scope : Scope Symbol) (name : String) (symbol : Symbol) (other : String) :
    (scope.extended name symbol).find? other =
      (scope.find? other).or (if other == name then some symbol else none) := by
  rw [extended, find?, find?, List.lookup_append, List.lookup_cons, List.lookup_nil]
  cases other == name <;> rfl

theorem declare_extended {scope : Scope Symbol} {name : String} (free : scope.find? name = none)
    (symbol : Symbol) : scope.declare name symbol = .ok (scope.extended name symbol) := by
  rw [declare, free]
  rfl

theorem replace_extended {scope : Scope Symbol} {name : String} (free : scope.find? name = none)
    (symbol symbol' : Symbol) :
    (scope.extended name symbol).replace name symbol' = scope.extended name symbol' := by
  have others : scope.entries.map (fun entry =>
      if entry.1 = name then (name, symbol') else entry) = scope.entries := by
    refine (List.map_congr_left fun entry member => if_neg fun same => ?_).trans (List.map_id _)
    exact bne_iff_ne.mp (List.lookup_eq_none_iff.mp free entry member) same.symm
  rw [extended, replace, List.map_append, others, List.map_singleton, if_pos rfl]
  rfl

end Scope

/-- Two functions with the same name hide the same struct types. -/
theorem SameStructs.functions (scope : Scope Symbol) (name : String)
    (signature signature' : Signature) (outer : List (Scope Symbol)) :
    SameStructs (scope.extended name (.function signature) :: outer)
      (scope.extended name (.function signature') :: outer) := by
  intro other
  simp only [SymbolTable.definesStruct, SymbolTable.visible?, List.findSome?_cons,
    Scope.find?_extended]
  cases scope.find? other with
  | some symbol => rfl
  | none => cases other == name <;> rfl

/-- Attaching finds a function where it was declared, whatever was declared inside since then. -/
theorem SymbolTable.attachOutside_extended {scope : Scope Symbol} {name : String}
    (free : scope.find? name = none) (innermost : Scope Symbol) (outer : List (Scope Symbol))
    (returns : String) (types : List String) :
    attachOutside ⟨innermost :: scope.extended name (.function { returns }) :: outer⟩ name types =
      (some true,
        ⟨innermost :: scope.extended name (.function { returns, params := some types }) ::
          outer⟩) := by
  have located : (scope.extended name (.function { returns })).find? name =
      some (.function { returns }) := by
    rw [Scope.find?_extended, free, beq_self_eq_true]
    rfl
  have visible : (SymbolTable.mk (scope.extended name (.function { returns }) :: outer)).visible?
      name = some (.function { returns }) := by
    rw [visible?, List.findSome?_cons, located]
  simp only [attachOutside, attachParams, visible, Signature.attach?, replaceIn, located,
    Scope.replace_extended free]

/-! ### Functions -/

/-- What happens before the body of a function is taken up. -/
def openFunction (ret : TypeName) (name : Ident) (formals : List Formal) : Analysis Unit := do
  let signature : Signature := { returns := ret.descriptor }
  let held := (← get).takes name.name
  declareDefinition name (.function signature) (some (.declaredFunction name.name))
  enterScope
  Formal.declareList formals
  attachFormals name signature held formals

/-- The same for a function that is declared with its complete signature. -/
def openComplete (ret : TypeName) (name : Ident) (formals : List Formal) : Analysis Unit := do
  declareDefinition name (.function (signatureOf ret formals)) (some (.declaredFunction name.name))
  enterScope
  Formal.declareList formals

theorem SymbolTable.takes_cons (scope : Scope Symbol) (outer : List (Scope Symbol))
    (name : String) :
    (SymbolTable.mk (scope :: outer)).takes name = (scope.find? name).isNone := by
  simp only [SymbolTable.takes, SymbolTable.findLocal]
  cases scope.find? name <;> rfl

/-- A declaration that is refused leaves no trace of its symbol. -/
theorem declareDefinition_refused {table : SymbolTable} {name : Ident}
    (refused : table.takes name.name = false) (symbol symbol' : Symbol) (event : Option Event) :
    (declareDefinition name symbol event).run table =
      (declareDefinition name symbol' event).run table := by
  obtain ⟨scopes⟩ := table
  cases scopes with
  | nil => rfl
  | cons scope outer =>
    have declared : ∀ symbol, (SymbolTable.mk (scope :: outer)).declare name.name symbol =
        (scope.declare name.name symbol).map fun next => ⟨next :: outer⟩ := fun _ => rfl
    rw [SymbolTable.takes_cons, Option.isNone_eq_false_iff, Option.isSome_iff_exists] at refused
    obtain ⟨found, located⟩ := refused
    simp only [declareDefinition, StateT.run_bind, StateT.run_get, Traced.pure_bind, declared,
      Scope.declare, located, Except.map]

theorem declareDefinition_accepted {scope : Scope Symbol} {name : Ident}
    (free : scope.find? name.name = none) (outer : List (Scope Symbol)) (symbol : Symbol)
    (event : Event) :
    (declareDefinition name symbol (some event)).run ⟨scope :: outer⟩ =
      ⟨((), ⟨scope.extended name.name symbol :: outer⟩), [event]⟩ := by
  have declared : (SymbolTable.mk (scope :: outer)).declare name.name symbol =
      (scope.declare name.name symbol).map fun next => ⟨next :: outer⟩ := rfl
  simp only [declareDefinition, StateT.run_bind, StateT.run_get, Traced.pure_bind, declared,
    Scope.declare_extended free, Except.map]
  rfl

theorem attachFormals_held {scope : Scope Symbol} {name : Ident}
    (free : scope.find? name.name = none) (innermost : Scope Symbol) (outer : List (Scope Symbol))
    (ret : TypeName) (formals : List Formal) (signature : Signature) :
    (attachFormals name signature true formals).run
        ⟨innermost :: scope.extended name.name (.function { returns := ret.descriptor }) ::
          outer⟩ =
      ⟨((), ⟨innermost :: scope.extended name.name (.function (signatureOf ret formals)) ::
          outer⟩), []⟩ := by
  simp only [attachFormals, if_true, StateT.run_bind, StateT.run_get, Traced.pure_bind,
    SymbolTable.attachOutside_extended free]
  rfl

/-- A function gets the same signature in two steps as in one. -/
theorem openFunction_run (ret : TypeName) (name : Ident) (formals : List Formal)
    (table : SymbolTable) :
    (openFunction ret name formals).run table = (openComplete ret name formals).run table := by
  cases held : table.takes name.name with
  | false =>
    -- The symbol is not in the table, and attaching to it changes nothing.
    have refused := declareDefinition_refused held (.function { returns := ret.descriptor })
      (.function (signatureOf ret formals)) (some (.declaredFunction name.name))
    simp only [openFunction, openComplete, StateT.run_bind, StateT.run_get, Traced.pure_bind, held,
      refused]
    refine congrArg _ (funext fun _ => congrArg _ (funext fun _ => ?_))
    exact Traced.bind_pure _
  | true =>
    obtain ⟨scopes⟩ := table
    cases scopes with
    | nil => exact nomatch held
    | cons scope outer =>
      have free : scope.find? name.name = none :=
        Option.isNone_iff_eq_none.mp (SymbolTable.takes_cons scope outer name.name ▸ held)
      obtain ⟨outcome, inSteps, complete⟩ :=
        (SameStructs.functions scope name.name { returns := ret.descriptor }
          (signatureOf ret formals) outer).declareList_within formals Scope.empty
      simp only [openFunction, openComplete, StateT.run_bind, StateT.run_get, Traced.pure_bind,
        held, declareDefinition_accepted free]
      have entered : ∀ table, enterScope.run table =
          ⟨((), table.push), [.scopeEntered table.push.depth]⟩ := fun _ => rfl
      simp only [Traced.mk_bind, entered, SymbolTable.push, SymbolTable.depth, List.length_cons,
        inSteps, complete, Traced.within, attachFormals_held free, List.append_nil]

/-- A function is analysed as if it had been declared with its complete signature. -/
theorem Function.analyze_eq (ret : TypeName) (name : Ident) (formals : List Formal)
    (body : Block) :
    Function.analyze ⟨ret, name, formals, body⟩ = (do
      declareDefinition name (.function (signatureOf ret formals))
        (some (.declaredFunction name.name))
      enterScope
      Formal.declareList formals
      let body ← body.analyze
      leaveScope
      return ⟨ret, name, formals, body⟩) := by
  let rest : Unit → Analysis Function := fun _ => do
    let body ← body.analyze
    leaveScope
    return ⟨ret, name, formals, body⟩
  rw [Function.analyze]
  refine StateT.ext fun table => ?_
  calc _ = (openFunction ret name formals >>= rest).run table := by
        simp only [openFunction, rest, StateT.run_bind, Traced.bind_assoc]
    _ = (openComplete ret name formals >>= rest).run table := by
        rw [StateT.run_bind, StateT.run_bind, openFunction_run]
    _ = _ := by simp only [openComplete, rest, StateT.run_bind, Traced.bind_assoc]

end NameBinding
