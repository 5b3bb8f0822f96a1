/-
This file says what a table of fields holds after any declarations, accepted or refused. It lists
each name once, where it was declared first, and a name stands for the symbol of that declaration.
Such a table can also be kept in two parts, one to look names up in and one that lists them. Nothing
in the parts themselves ties them together: a declaration has to change both or none of them. One
declaration keeps them in step with the table, and so do all of them, also those that an analysis
makes when it reads the fields of a struct.
-/

import NameBinding.Proofs.FirstDeclared
import NameBinding.Proofs.ScopeHistory
import NameBinding.Proofs.Traced
import NameBinding.Scope.Indexed

namespace NameBinding

section

variable {α : Type}

/-! ### The names of entries -/

theorem isSome_lookup_iff (entries : List (String × α)) (name : String) :
    (entries.lookup name).isSome = true ↔ name ∈ entries.map Prod.fst := by
  rw [List.lookup_isSome_iff, List.mem_map]
  exact exists_congr fun entry => and_congr_right fun _ => beq_iff_eq.trans eq_comm

/-- The names of the first entries are all names, each in the place where it comes first. -/
theorem map_fst_firstOfEach (entries : List (String × α)) :
    (firstOfEach entries).map Prod.fst = (entries.map Prod.fst).eraseDups := by
  induction entries using List.reverseRecOn with
  | nil => rfl
  | append_singleton entries last inductionHypothesis =>
    rw [firstOfEach_concat, List.map_append, List.eraseDups_append, ← inductionHypothesis,
      List.map_singleton, List.cons_removeAll, List.nil_removeAll]
    by_cases taken : last.1 ∈ entries.map Prod.fst
    · rw [if_pos ((isSome_lookup_iff _ _).mpr taken), List.contains_iff_mem.mpr taken]
      exact (List.append_nil _).symm
    · rw [if_neg (mt (isSome_lookup_iff _ _).mp taken), List.map_append,
        Bool.eq_false_iff.mpr (mt List.contains_iff_mem.mp taken)]
      rfl

theorem nodup_map_fst_firstOfEach (entries : List (String × α)) :
    ((firstOfEach entries).map Prod.fst).Nodup := by
  induction entries with
  | nil => exact List.nodup_nil
  | cons entry rest inductionHypothesis =>
    rw [firstOfEach, List.map_cons, List.nodup_cons]
    constructor
    · intro again
      obtain ⟨later, member, same⟩ := List.mem_map.mp again
      have different := (List.mem_filter.mp member).2
      exact absurd same (bne_iff_ne.mp different)
    · exact inductionHypothesis.sublist (List.filter_sublist.map Prod.fst)

end

/-! ### A scope in two parts -/

namespace IndexedFields

/-- Whether both parts say what a table of fields says. -/
structure InStep (fields : IndexedFields) (table : FieldTable) : Prop where
  listed : fields.order = table.names
  found : ∀ name, fields.held[name]? = table.find? name

namespace InStep

variable {fields : IndexedFields} {table : FieldTable}

theorem empty : InStep {} Scope.empty :=
  ⟨rfl, fun _ => Std.HashMap.getElem?_empty⟩

/-- A declaration is refused by both or by none, and leaves both parts in step. -/
theorem declare (inStep : InStep fields table) (name : String) (symbol : Symbol) :
    (Declarable.declare fields name symbol = .error (.duplicateName name) ∧
        Declarable.declare table name symbol = .error (.duplicateName name)) ∨
      ∃ nextFields nextTable, Declarable.declare fields name symbol = .ok nextFields ∧
        Declarable.declare table name symbol = .ok nextTable ∧ InStep nextFields nextTable := by
  have inParts : Declarable.declare fields name symbol = fields.declare name symbol := rfl
  have inTable : Declarable.declare table name symbol = Scope.declare table name symbol := rfl
  have known := inStep.found name
  rw [inParts, inTable, IndexedFields.declare, Scope.declare, known]
  cases located : table.find? name with
  | some symbol => exact .inl ⟨rfl, rfl⟩
  | none =>
    refine .inr ⟨_, _, rfl, rfl, ?_, fun other => ?_⟩
    · rw [Scope.names, List.map_append, inStep.listed]
      rfl
    · rw [Std.HashMap.getElem?_insert, Scope.find?_concat, inStep.found]
      by_cases same : name = other
      · rw [← same, located, if_pos (beq_self_eq_true name), if_pos rfl]
        rfl
      · rw [if_neg (mt beq_iff_eq.mp same), if_neg same, Option.or_none]

theorem accept (inStep : InStep fields table) (call : String × Symbol) :
    InStep (Declarable.accept fields call) (Declarable.accept table call) := by
  rw [Declarable.accept, Declarable.accept]
  rcases inStep.declare call.1 call.2 with ⟨inParts, inTable⟩ | ⟨_, _, inParts, inTable, next⟩
  · rw [inParts, inTable]
    exact inStep
  · rw [inParts, inTable]
    exact next

theorem acceptAll (inStep : InStep fields table) (calls : List (String × Symbol)) :
    InStep (Declarable.acceptAll fields calls) (Declarable.acceptAll table calls) := by
  induction calls generalizing fields table with
  | nil => exact inStep
  | cons call rest inductionHypothesis => exact inductionHypothesis (inStep.accept call)

theorem declare_error_iff (inStep : InStep fields table) (name : String) (symbol : Symbol)
    (reason : TableError) : Declarable.declare fields name symbol = .error reason ↔
      Declarable.declare table name symbol = .error reason := by
  rcases inStep.declare name symbol with ⟨inParts, inTable⟩ | ⟨_, _, inParts, inTable, -⟩
  · rw [inParts, inTable]
    rw [Except.error.injEq, Except.error.injEq]
  · rw [inParts, inTable]
    exact iff_of_false (fun same => by contradiction) fun same => by contradiction

/-! ### Fields that an analysis declares -/

/-- Whether a step does the same with both: it gives the same, what happens is the same, and at its
end the parts are in step with the table. -/
structure Agrees {α : Type} (inParts : Traced (α × IndexedFields))
    (inTable : Traced (α × FieldTable)) : Prop where
  given : inParts.value.1 = inTable.value.1
  happened : inParts.trace = inTable.trace
  inStep : InStep inParts.value.2 inTable.value.2

theorem Agrees.bind {α β : Type} {inParts : Traced (α × IndexedFields)}
    {inTable : Traced (α × FieldTable)} {next : α × IndexedFields → Traced (β × IndexedFields)}
    {next' : α × FieldTable → Traced (β × FieldTable)} (agrees : Agrees inParts inTable)
    (agreesNext : ∀ value fields table, InStep fields table →
      Agrees (next (value, fields)) (next' (value, table))) :
    Agrees (inParts >>= next) (inTable >>= next') := by
  obtain ⟨⟨value, fields⟩, trace⟩ := inParts
  obtain ⟨⟨value', table⟩, trace'⟩ := inTable
  obtain ⟨rfl, rfl, inStep⟩ := agrees
  have agrees := agreesNext value fields table inStep
  exact ⟨agrees.given, congrArg (trace ++ ·) agrees.happened, agrees.inStep⟩

theorem declareSymbol (inStep : InStep fields table) (name : Ident) (symbol : Symbol) :
    Agrees ((NameBinding.declareSymbol name symbol).run fields)
      ((NameBinding.declareSymbol name symbol).run table) := by
  have inParts : Declarable.findLocal fields name.name = .ok fields.held[name.name]? := rfl
  have inTable : Declarable.findLocal table name.name = .ok (table.find? name.name) := rfl
  unfold NameBinding.declareSymbol
  simp only [StateT.run_bind, StateT.run_get, Traced.pure_bind, inParts, inTable,
    inStep.found name.name]
  cases table.find? name.name with
  | some _ => exact ⟨rfl, rfl, inStep⟩
  | none =>
    simp only [StateT.run_bind, StateT.run_get, Traced.pure_bind]
    rcases inStep.declare name.name symbol with ⟨inParts, inTable⟩ | ⟨_, _, inParts, inTable, next⟩
    · rw [inParts, inTable]
      exact ⟨rfl, rfl, inStep⟩
    · rw [inParts, inTable]
      exact ⟨rfl, rfl, next⟩

/-- Fields are declared in both in the same way, with the same errors at the same time. -/
theorem declareFields (inStep : InStep fields table) (outer : SymbolTable)
    (decls : List VarDecl) :
    Agrees ((NameBinding.declareFields outer decls).run fields)
      ((NameBinding.declareFields outer decls).run table) := by
  induction decls generalizing fields table with
  | nil => exact ⟨rfl, rfl, inStep⟩
  | cons field rest inductionHypothesis =>
    have first : Agrees ((field.declare outer).run fields) ((field.declare outer).run table) := by
      rw [VarDecl.declare, VarDecl.declare, declareTyped, declareTyped]
      cases field.type.isVoid with
      | true => exact ⟨rfl, rfl, inStep⟩
      | false =>
        rw [if_neg Bool.false_ne_true, if_neg Bool.false_ne_true, run_lift_bind, run_lift_bind]
        have declared := inStep.declareSymbol field.name field.type.symbol
        exact ⟨declared.given, congrArg (_ ++ ·) declared.happened, declared.inStep⟩
    rw [NameBinding.declareFields, NameBinding.declareFields, StateT.run_bind, StateT.run_bind]
    exact first.bind fun _ _ _ next => inductionHypothesis next

end InStep

end IndexedFields

/-! ### Tables of fields -/

namespace Scope

/-- A table of fields refuses the names that it lists, and no others. -/
theorem declare_error_iff (table : FieldTable) (name : String) (symbol : Symbol)
    (reason : TableError) : Declarable.declare table name symbol = .error reason ↔
      reason = .duplicateName name ∧ name ∈ table.names := by
  have inTable : Declarable.declare table name symbol = table.declare name symbol := rfl
  rw [inTable, declare, names, ← isSome_lookup_iff, ← find?]
  cases table.find? name with
  | some symbol =>
    rw [Except.error.injEq]
    exact ⟨fun same => ⟨same.symm, rfl⟩, fun both => both.1.symm⟩
  | none => exact iff_of_false (fun same => by contradiction) fun both => Bool.false_ne_true both.2

/-- A table of fields that was new is filled with the first declaration of each name. -/
theorem acceptAll_empty (calls : List (String × Symbol)) :
    Declarable.acceptAll (empty : FieldTable) calls = ofBindings calls :=
  acceptAll_ofBindings [] calls

/-- A declaration of a name that is listed leaves no trace. -/
theorem acceptAll_again (calls later : List (String × Symbol)) (name : String) (symbol : Symbol)
    (listed : name ∈ (Declarable.acceptAll (empty : FieldTable) calls).names) :
    Declarable.acceptAll (empty : FieldTable) (calls ++ (name, symbol) :: later) =
      Declarable.acceptAll (empty : FieldTable) (calls ++ later) := by
  have refused := (declare_error_iff _ name symbol (.duplicateName name)).mpr ⟨rfl, listed⟩
  have kept : Declarable.accept (Declarable.acceptAll (empty : FieldTable) calls) (name, symbol) =
      Declarable.acceptAll empty calls := by
    rw [Declarable.accept, refused]
  rw [Declarable.acceptAll_append, Declarable.acceptAll_append]
  exact congrArg (Declarable.acceptAll · later) kept

end Scope

/-- A table of fields that was new lists the declared names in the order of their first declarations
and each of them once. These are the names that are found, with the symbols of those declarations,
in each of the two ways to ask. A declaration is refused just if its name is listed, and then it
leaves no trace. Kept in two parts, the list and the look-ups stay in step and refuse the same. -/
theorem field_tables_in_step (calls : List (String × Symbol)) :
    let table := Declarable.acceptAll (Scope.empty : FieldTable) calls
    let parts := Declarable.acceptAll ({} : IndexedFields) calls
    table.names = (calls.map Prod.fst).eraseDups ∧ table.names.Nodup ∧
      (∀ name, name ∈ table.names ↔ (table.find? name).isSome = true) ∧
      table.size = table.names.length ∧ (table.isEmpty = true ↔ table.names = []) ∧
      (∀ name, table.find? name = calls.lookup name ∧
        Declarable.findLocal table name = .ok (calls.lookup name)) ∧
      (∀ name symbol reason, Declarable.declare table name symbol = .error reason ↔
        reason = .duplicateName name ∧ name ∈ table.names) ∧
      (∀ name symbol later, name ∈ table.names →
        Declarable.acceptAll (Scope.empty : FieldTable) (calls ++ (name, symbol) :: later) =
          Declarable.acceptAll Scope.empty (calls ++ later)) ∧
      parts.order = table.names ∧ (∀ name, parts.held[name]? = table.find? name) ∧
      ∀ name symbol reason, Declarable.declare parts name symbol = .error reason ↔
        Declarable.declare table name symbol = .error reason := by
  intro table parts
  have filled : table = Scope.ofBindings calls := Scope.acceptAll_empty calls
  have inStep : parts.InStep table := IndexedFields.InStep.empty.acceptAll calls
  have found : ∀ name, table.find? name = calls.lookup name := fun name => by
    rw [filled, Scope.find?_ofBindings]
  refine ⟨?_, ?_, ?_, ?_, ?_, fun name => ⟨found name, ?_⟩, table.declare_error_iff, ?_,
    inStep.listed, inStep.found, inStep.declare_error_iff⟩
  · rw [filled]
    exact map_fst_firstOfEach calls
  · rw [filled]
    exact nodup_map_fst_firstOfEach calls
  · exact fun name => (isSome_lookup_iff table.entries name).symm
  · exact (List.length_map _).symm
  · rw [Scope.names, List.map_eq_nil_iff]
    exact List.isEmpty_iff
  · exact congrArg Except.ok (found name)
  · exact fun name symbol later => Scope.acceptAll_again calls later name symbol

/-- A field that comes again is refused and keeps its place and its first symbol. -/
theorem field_tables_in_step_repeating :
    let calls : List (String × Symbol) :=
      [("y", .plain "integer"), ("x", .plain "boolean"), ("y", .plain "boolean")]
    let table := Declarable.acceptAll (Scope.empty : FieldTable) calls
    "x" ∈ table.names ∧ table.names = ["y", "x"] ∧ table.find? "y" = some (.plain "integer") ∧
      Declarable.acceptAll (Scope.empty : FieldTable)
          (calls ++ [("x", .structInstance "T"), ("z", .plain "integer")]) =
        Declarable.acceptAll Scope.empty (calls ++ [("z", .plain "integer")]) := by
  intro calls table
  obtain ⟨names, -, -, -, -, found, -, noTrace, -⟩ := field_tables_in_step calls
  have listed : table.names = ["y", "x"] := names
  have member : "x" ∈ table.names := listed ▸ List.mem_cons_of_mem _ List.mem_cons_self
  exact ⟨member, listed, (found "y").1, noTrace "x" _ _ member⟩

end NameBinding
