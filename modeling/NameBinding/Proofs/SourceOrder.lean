/-
This file proves that naming errors come in the order of the text and that no name is blamed twice.
An analysis reports some errors behind the place to which they belong: the base of an access is
blamed only when its field is looked for, and a field only when a further access selects from it.
The places of a program settle this, since each of them has at most one error and the errors are
those of the places in their order. So it is enough that a place at fault is an occurrence of a
name, and that the kind of its error is one of the kinds for the part that the name plays.
-/

import Mathlib.Data.List.NodupEquivFin
import NameBinding.Proofs.Accounts

namespace NameBinding

/-- The kinds of errors that a name can be blamed for by the part that it plays. -/
def Role.errors : Role → List DiagnosticKind
  | declaration => [.nonFunctionVoid, .multiplyDeclared]
  | typeName => [.invalidStructType]
  | reference => [.undeclared, .colonAccessOfNonStruct]
  | field => [.undeclared, .colonAccessOfNonStruct, .invalidStructFieldName]

/-- An error stands where the name stands, and is of a kind that the part of the name admits. -/
def Diagnostic.Blames (diagnostic : Diagnostic) (occurrence : Ident × Role) : Prop :=
  diagnostic.pos = occurrence.1.pos ∧ diagnostic.kind ∈ occurrence.2.errors

instance (diagnostic : Diagnostic) (occurrence : Ident × Role) :
    Decidable (diagnostic.Blames occurrence) :=
  inferInstanceAs (Decidable (_ ∧ _))

/-! ### The error of a place -/

namespace Use

/-- A reference or a field at fault is an occurrence that its error blames. -/
theorem blames_of_fault? (meaning : String → Option Symbol) (mention : Use)
    (diagnostic : Diagnostic) (blamed : mention.fault? meaning = some diagnostic) :
    ∃ occurrence, mention.given.occurrence? = some occurrence ∧ diagnostic.Blames occurrence := by
  cases mention with
  | reference ident isBase =>
    refine ⟨(ident, .reference), rfl, ?_⟩
    rcases fault?_reference meaning ident isBase diagnostic blamed with rfl | rfl
    · exact ⟨rfl, by simp [Role.errors]⟩
    · exact ⟨rfl, by simp [Role.errors]⟩
  | member base field isBase =>
    obtain ⟨pos, ofUse⟩ := fault?_member meaning base field isBase diagnostic blamed
    refine ⟨(field, .field), rfl, pos, ?_⟩
    -- The errors of uses are just the three that a field admits.
    cases kind : diagnostic.kind <;> simp [kind, DiagnosticKind.isOfUse, Role.errors] at ofUse ⊢
  | access base field exposed => cases blamed

end Use

namespace Spot

/-- A declared name that was introduced before is blamed where it stands. -/
theorem blames_of_repeated? (before : List Introduction) (name : Ident) (diagnostic : Diagnostic)
    (blamed : repeated? before name = some diagnostic) :
    diagnostic.Blames (name, .declaration) := by
  obtain ⟨_, rfl⟩ := (repeated?_eq_some before name diagnostic).mp blamed
  exact ⟨rfl, by simp [Role.errors]⟩

/-- A place at fault is an occurrence of a name, and its error blames that occurrence. -/
theorem blames_of_fault? (spot : Spot) (diagnostic : Diagnostic)
    (blamed : spot.fault? = some diagnostic) :
    ∃ occurrence, spot.given.occurrence? = some occurrence ∧ diagnostic.Blames occurrence := by
  cases spot with
  | resultType around name => cases blamed
  | typeName around name =>
    rw [fault?, Option.ite_none_left_eq_some] at blamed
    cases blamed.2
    exact ⟨(name, .typeName), rfl, rfl, by simp [Role.errors]⟩
  | typed before type name =>
    refine ⟨(name, .declaration), rfl, ?_⟩
    simp only [fault?] at blamed
    split at blamed
    · cases blamed
      exact ⟨rfl, by simp [Role.errors]⟩
    · exact blames_of_repeated? before name diagnostic blamed
  | definition before name =>
    exact ⟨(name, .declaration), rfl, blames_of_repeated? before name diagnostic blamed⟩
  | use around mention => exact mention.blames_of_fault? around.meaning? diagnostic blamed

/-- The errors of places, one after the other, blame some of the names at these places, one after
the other. -/
theorem blames_of_faults (spots : List Spot) :
    ∃ blamed : List (Ident × Role),
      blamed.Sublist ((spots.map given).filterMap Visit.occurrence?) ∧
        List.Forall₂ Diagnostic.Blames (spots.filterMap fault?) blamed := by
  induction spots with
  | nil => exact ⟨[], .slnil, .nil⟩
  | cons spot rest inductionHypothesis =>
    obtain ⟨blamed, among, blames⟩ := inductionHypothesis
    rw [List.map_cons, filterMap_cons_toList, filterMap_cons_toList]
    cases fault : spot.fault? with
    | none => exact ⟨blamed, among.trans (List.sublist_append_right _ _), blames⟩
    | some diagnostic =>
      obtain ⟨occurrence, met, blame⟩ := spot.blames_of_fault? diagnostic fault
      rw [met]
      exact ⟨occurrence :: blamed, among.cons_cons occurrence, .cons blame blames⟩

end Spot

/-! ### The errors of a program -/

/-- Where the second list is part of the third one, each item of the first list has a place in the
third one, and the places come in the same order. -/
theorem exists_strictMono_of_sublist {α β : Type} {related : α → β → Prop} {first : List α}
    {part whole : List β} (among : part.Sublist whole)
    (pairs : List.Forall₂ related first part) :
    ∃ place : Fin first.length → Fin whole.length, StrictMono place ∧
      ∀ index, related (first.get index) (whole.get (place index)) := by
  obtain ⟨embedding, located⟩ := List.sublist_iff_exists_fin_orderEmbedding_get_eq.mp among
  have same : first.length = part.length := pairs.length_eq
  refine ⟨fun index => embedding (index.cast same), fun index other before => ?_, fun index => ?_⟩
  · exact embedding.strictMono before
  · rw [← located]
    exact pairs.get index.isLt (index.cast same).isLt

namespace Program

/-- The naming errors of a program are, in their order, those of some of its names in the order of
the text. So an error that is listed later is that of a name further on, and no name has two. -/
theorem errors_in_source_order (program : Program) (fresh : program.IsFresh) :
    (∃ blamed : List (Ident × Role), blamed.Sublist program.occurrences ∧
        List.Forall₂ Diagnostic.Blames program.check.2.entries blamed) ∧
      ∃ place : Fin program.check.2.entries.length → Fin program.occurrences.length,
        StrictMono place ∧
          ∀ index, (program.check.2.entries.get index).Blames
            (program.occurrences.get (place index)) := by
  have accounts := program.check_accounts fresh
  have ⟨blamed, among, blames⟩ := Spot.blames_of_faults program.spots
  rw [show (program.spots.map Spot.given).filterMap Visit.occurrence? = program.occurrences from
    congrArg (List.filterMap Visit.occurrence?) accounts.given.symm] at among
  rw [show program.spots.filterMap Spot.fault? = program.check.2.entries from
    accounts.reports.symm] at blames
  exact ⟨⟨blamed, among, blames⟩, exists_strictMono_of_sublist among blames⟩

/-- A program with two chains of accesses. In each of them a name is blamed that stands before the
one at which the analysis has arrived: the field of the first access, and the head. -/
def lateBlames : Program := ⟨[
  .struct ⟨⟨"P", ⟨1, 8⟩, none⟩, [{ type := .integer, name := ⟨"q", ⟨1, 20⟩, none⟩ }]⟩,
  .var { type := .struct ⟨"P", ⟨2, 8⟩, none⟩, name := ⟨"p", ⟨2, 10⟩, none⟩ },
  .func ⟨.void, ⟨"f", ⟨3, 6⟩, none⟩, [],
    ⟨[], [.assign
      (.access (.access (.id ⟨"p", ⟨4, 3⟩, none⟩) ⟨"q", ⟨4, 5⟩, none⟩ none)
        ⟨"r", ⟨4, 7⟩, none⟩ none)
      (.access (.id ⟨"f", ⟨4, 12⟩, none⟩) ⟨"q", ⟨4, 14⟩, none⟩ none)]⟩⟩]⟩

theorem errors_in_source_order_lateBlames :
    lateBlames.IsFresh ∧
      ∃ blamed : List (Ident × Role), blamed.Sublist lateBlames.occurrences ∧
        List.Forall₂ Diagnostic.Blames
          [⟨.invalidStructFieldName, ⟨4, 5⟩⟩, ⟨.colonAccessOfNonStruct, ⟨4, 12⟩⟩] blamed := by
  have fresh : lateBlames.IsFresh := by decide
  exact ⟨fresh, (lateBlames.errors_in_source_order fresh).1⟩

end Program

end NameBinding
