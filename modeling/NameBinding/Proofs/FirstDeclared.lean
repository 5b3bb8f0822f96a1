/-
This file says what a scope holds after any number of declarations, successful or not. Declaring is
turned into a total operation that leaves a scope alone when the name is taken. A scope that was
filled in this way from a list of names with their symbols holds the first entry of each name, in
the order of the list, so looking a name up in the scope is looking it up in the list. In a table
the same happens to the innermost scope, and the scopes around it stay what they are.
-/

import NameBinding.Analysis.Declaration

namespace NameBinding

variable {α : Type}

/-! ### The first entry of each name -/

/-- The entries of a list with a name that no earlier entry has. -/
def firstOfEach : List (String × α) → List (String × α)
  | [] => []
  | entry :: rest => entry :: (firstOfEach rest).filter fun later => later.1 != entry.1

/-- Leaving out the entries of one name does not change what other names stand for. -/
theorem lookup_filter_ne (entries : List (String × α)) (name other : String)
    (different : name ≠ other) :
    (entries.filter fun entry => entry.1 != other).lookup name = entries.lookup name := by
  induction entries with
  | nil => rfl
  | cons entry rest inductionHypothesis =>
    obtain ⟨key, value⟩ := entry
    by_cases dropped : key = other
    · have passed : (name == key) = false := by simpa [dropped] using different
      rw [List.filter_cons_of_neg (by simp [dropped]), inductionHypothesis, List.lookup_cons,
        passed]
    · rw [List.filter_cons_of_pos (by simp [dropped]), List.lookup_cons, List.lookup_cons,
        inductionHypothesis]

theorem lookup_firstOfEach (entries : List (String × α)) (name : String) :
    (firstOfEach entries).lookup name = entries.lookup name := by
  induction entries with
  | nil => rfl
  | cons entry rest inductionHypothesis =>
    obtain ⟨key, value⟩ := entry
    rw [firstOfEach, List.lookup_cons, List.lookup_cons]
    by_cases found : name = key
    · simp [found]
    · rw [lookup_filter_ne _ _ _ found, inductionHypothesis]

theorem firstOfEach_subset (entries : List (String × α)) :
    firstOfEach entries ⊆ entries := by
  induction entries with
  | nil => exact List.Subset.refl []
  | cons entry rest inductionHypothesis =>
    have kept : (firstOfEach rest).filter (fun later => later.1 != entry.1) ⊆ rest :=
      List.Subset.trans List.filter_sublist.subset inductionHypothesis
    exact List.cons_subset_cons entry kept

/-- One more entry at the end counts only if its name is new. -/
theorem firstOfEach_concat (entries : List (String × α)) (last : String × α) :
    firstOfEach (entries ++ [last]) =
      if (entries.lookup last.1).isSome then firstOfEach entries
      else firstOfEach entries ++ [last] := by
  induction entries with
  | nil => rfl
  | cons entry rest inductionHypothesis =>
    obtain ⟨key, value⟩ := entry
    rw [List.cons_append, firstOfEach, firstOfEach, inductionHypothesis, List.lookup_cons]
    by_cases found : last.1 = key
    · split <;> simp [found, List.filter_append]
    · have passed : (last.1 == key) = false := by simpa using found
      rw [passed]
      split <;> simp [found, List.filter_append]

namespace Scope

/-- The scope that a list of names with what they stand for gives rise to. -/
def ofBindings (bindings : List (String × α)) : Scope α := ⟨firstOfEach bindings⟩

@[simp] theorem find?_ofBindings (bindings : List (String × α)) (name : String) :
    (ofBindings bindings).find? name = bindings.lookup name :=
  lookup_firstOfEach bindings name

end Scope

/-! ### Declaring that never fails -/

/-- Declares a name if that can be done. -/
def Declarable.accept {σ : Type} [Declarable σ] (current : σ) (binding : String × Symbol) : σ :=
  match Declarable.declare current binding.1 binding.2 with
  | .ok next => next
  | .error _ => current

/-- Declares names, one after the other, as far as that can be done. -/
def Declarable.acceptAll {σ : Type} [Declarable σ] (current : σ)
    (bindings : List (String × Symbol)) : σ :=
  bindings.foldl Declarable.accept current

section

variable {σ : Type} [Declarable σ]

@[simp] theorem Declarable.acceptAll_nil (current : σ) : acceptAll current [] = current := rfl

theorem Declarable.acceptAll_append (current : σ) (first second : List (String × Symbol)) :
    acceptAll current (first ++ second) = acceptAll (acceptAll current first) second :=
  List.foldl_append

end

/-- Declaring one more name has an effect only if the name is new, as in the list. -/
theorem Scope.accept_ofBindings (bindings : List (String × Symbol)) (last : String × Symbol) :
    Declarable.accept (σ := FieldTable) (ofBindings bindings) last =
      ofBindings (bindings ++ [last]) := by
  have declared : Declarable.declare (σ := FieldTable) (ofBindings bindings) last.1 last.2 =
      (ofBindings bindings).declare last.1 last.2 := rfl
  rw [Declarable.accept, declared, Scope.declare, find?_ofBindings, ofBindings, ofBindings,
    firstOfEach_concat]
  cases bindings.lookup last.1 with
  | none => rfl
  | some symbol => rfl

/-- A scope that was filled from a list and is filled further is filled from both lists. -/
theorem Scope.acceptAll_ofBindings (bindings more : List (String × Symbol)) :
    Declarable.acceptAll (σ := FieldTable) (ofBindings bindings) more =
      ofBindings (bindings ++ more) := by
  induction more generalizing bindings with
  | nil => rw [Declarable.acceptAll_nil, List.append_nil]
  | cons binding rest inductionHypothesis =>
    rw [List.append_cons, ← inductionHypothesis, ← accept_ofBindings]
    rfl

theorem SymbolTable.accept_cons (scope : Scope Symbol) (outer : List (Scope Symbol))
    (binding : String × Symbol) :
    Declarable.accept (σ := SymbolTable) ⟨scope :: outer⟩ binding =
      ⟨Declarable.accept (σ := FieldTable) scope binding :: outer⟩ := by
  have inTable : Declarable.declare (σ := SymbolTable) ⟨scope :: outer⟩ binding.1 binding.2 =
      (scope.declare binding.1 binding.2).map fun next => ⟨next :: outer⟩ := rfl
  have inScope : Declarable.declare (σ := FieldTable) scope binding.1 binding.2 =
      scope.declare binding.1 binding.2 := rfl
  rw [Declarable.accept, Declarable.accept, inTable, inScope]
  cases scope.declare binding.1 binding.2 with
  | ok next => rfl
  | error reason => rfl

/-- Declarations in a table concern its innermost scope only. -/
theorem SymbolTable.acceptAll_cons (scope : Scope Symbol) (outer : List (Scope Symbol))
    (bindings : List (String × Symbol)) :
    Declarable.acceptAll (σ := SymbolTable) ⟨scope :: outer⟩ bindings =
      ⟨Declarable.acceptAll (σ := FieldTable) scope bindings :: outer⟩ := by
  induction bindings generalizing scope with
  | nil => rfl
  | cons binding rest inductionHypothesis =>
    rw [Declarable.acceptAll, List.foldl_cons, accept_cons]
    exact inductionHypothesis _

end NameBinding
