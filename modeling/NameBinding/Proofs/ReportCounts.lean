/-
This file accounts for what a collector is told. Errors come to it by their kind or as a bare text,
in any order, and it keeps the two sorts apart. Four views of it are computed on their own: the
number of one kind, the numbers of all kinds that occur, the number of reports, and the rows of the
table that is shown. They agree, since one more error adds one to the number of its kind and leaves
the others and their order as they are. The rows are read back from the text of the table.
-/

import Mathlib.Algebra.GroupWithZero.Nat
import NameBinding.Proofs.TableRows
import NameBinding.Report.Counts

namespace NameBinding

/-! ### Calls of a receiver -/

/-- One call of a receiver. -/
inductive ReportCall
  | byKind (diagnostic : Diagnostic)
  | byText (pos : Position) (message : String)
deriving DecidableEq

namespace ReportCall

/-- The error that is reported by its kind. -/
def diagnostic? : ReportCall → Option Diagnostic
  | byKind diagnostic => some diagnostic
  | byText _ _ => none

/-- The place and the text that are reported without a kind. -/
def text? : ReportCall → Option (Position × String)
  | byKind _ => none
  | byText pos message => some (pos, message)

/-- What a receiver makes of a call. -/
def handTo {σ : Type} [Sink σ] (sink : σ) : ReportCall → σ
  | byKind diagnostic => Sink.report sink diagnostic
  | byText pos message => Sink.reportText sink pos message

end ReportCall

namespace Diagnostics

/-- The collector after calls, all of them since it was new. -/
def ofCalls (calls : List ReportCall) : Diagnostics :=
  calls.foldl ReportCall.handTo {}

/-- A collector keeps the two sorts of calls apart, each in the order of the calls. -/
theorem foldl_handTo (diagnostics : Diagnostics) (calls : List ReportCall) :
    calls.foldl ReportCall.handTo diagnostics =
      ⟨diagnostics.entries ++ calls.filterMap ReportCall.diagnostic?,
        diagnostics.unclassified ++ calls.filterMap ReportCall.text?⟩ := by
  induction calls generalizing diagnostics with
  | nil =>
    show diagnostics = ⟨diagnostics.entries ++ [], diagnostics.unclassified ++ []⟩
    rw [List.append_nil, List.append_nil]
  | cons call rest inductionHypothesis =>
    rw [List.foldl_cons, inductionHypothesis]
    cases call with
    | byKind diagnostic => exact congrArg (mk · _) (List.append_assoc _ [diagnostic] _)
    | byText pos message => exact congrArg (mk _) (List.append_assoc _ [(pos, message)] _)

/-- Each call is kept once. -/
theorem size_ofCalls (calls : List ReportCall) : (ofCalls calls).size = calls.length := by
  rw [ofCalls, foldl_handTo, size, List.nil_append, List.nil_append]
  dsimp only
  induction calls with
  | nil => rfl
  | cons call rest inductionHypothesis =>
    rw [List.length_cons, ← inductionHypothesis]
    cases call with
    | byKind diagnostic => exact Nat.succ_add _ _
    | byText pos message => exact Nat.add_succ _ _

end Diagnostics

/-! ### Numbers by kind -/

namespace DiagnosticKind

theorem mem_all (kind : DiagnosticKind) : kind ∈ all := by
  cases kind <;> decide

theorem pairwise_all : all.Pairwise fun first second => first.rank < second.rank := by
  decide

end DiagnosticKind

namespace Tally

/-- The numbers that kinds have, for those that have one. -/
def ofCounts (kinds : List DiagnosticKind) (count : DiagnosticKind → Nat) : Tally :=
  (kinds.filter fun kind => 0 < count kind).map fun kind => (kind, count kind)

theorem ofCounts_cons (kind : DiagnosticKind) (kinds : List DiagnosticKind)
    (count : DiagnosticKind → Nat) : ofCounts (kind :: kinds) count =
      if 0 < count kind then (kind, count kind) :: ofCounts kinds count
      else ofCounts kinds count := by
  rw [ofCounts, List.filter_cons]
  by_cases occurs : 0 < count kind <;> simp [occurs, ofCounts]

theorem ofCounts_congr {kinds : List DiagnosticKind} {first second : DiagnosticKind → Nat}
    (same : ∀ kind ∈ kinds, first kind = second kind) :
    ofCounts kinds first = ofCounts kinds second := by
  induction kinds with
  | nil => rfl
  | cons kind rest inductionHypothesis =>
    have ⟨here, later⟩ := List.forall_mem_cons.mp same
    rw [ofCounts_cons, ofCounts_cons, here, inductionHypothesis later]

/-- A kind that comes before all that are counted is put in front of them. -/
theorem add_before {kind : DiagnosticKind} {tally : Tally}
    (before : ∀ entry ∈ tally, kind.rank < entry.1.rank) : tally.add kind = (kind, 1) :: tally := by
  cases tally with
  | nil => rfl
  | cons entry rest =>
    obtain ⟨other, count⟩ := entry
    have smaller : kind.rank < other.rank := before (other, count) List.mem_cons_self
    have different : kind ≠ other := fun same => Nat.lt_irrefl _ (same ▸ smaller)
    rw [add, if_neg different, if_pos smaller]

/-- Counting one more error of a kind adds one to the number of the kind and changes no other. -/
theorem add_ofCounts {kinds : List DiagnosticKind} (count : DiagnosticKind → Nat)
    (ordered : kinds.Pairwise fun first second => first.rank < second.rank)
    {kind : DiagnosticKind} (listed : kind ∈ kinds) : (ofCounts kinds count).add kind =
      ofCounts kinds fun other => count other + if kind = other then 1 else 0 := by
  induction kinds with
  | nil => exact absurd listed List.not_mem_nil
  | cons first rest inductionHypothesis =>
    obtain ⟨later, orderedRest⟩ := List.pairwise_cons.mp ordered
    rw [ofCounts_cons, ofCounts_cons]
    by_cases same : kind = first
    · subst same
      have unchanged : ofCounts rest (fun other => count other + if kind = other then 1 else 0) =
          ofCounts rest count := ofCounts_congr fun other member => by
        rw [if_neg fun same => Nat.lt_irrefl _ (same ▸ later other member), Nat.add_zero]
      rw [unchanged, if_pos rfl, if_pos (Nat.succ_pos _)]
      by_cases occurs : 0 < count kind
      · rw [if_pos occurs, add, if_pos rfl]
      · rw [if_neg occurs, Nat.eq_zero_of_not_pos occurs]
        refine add_before fun entry member => ?_
        obtain ⟨other, inside, rfl⟩ := List.mem_map.mp member
        exact later other (List.mem_of_mem_filter inside)
    · have inRest : kind ∈ rest := (List.mem_cons.mp listed).resolve_left same
      rw [if_neg same, Nat.add_zero, ← inductionHypothesis orderedRest inRest]
      by_cases occurs : 0 < count first
      · rw [if_pos occurs, if_pos occurs, add, if_neg same,
          if_neg (Nat.lt_asymm (later kind inRest))]
      · rw [if_neg occurs, if_neg occurs]

/-- Counting one more error adds one to the sum of the numbers. -/
theorem sum_add (tally : Tally) (kind : DiagnosticKind) :
    ((tally.add kind).map Prod.snd).sum = (tally.map Prod.snd).sum + 1 := by
  induction tally with
  | nil => rfl
  | cons entry rest inductionHypothesis =>
    obtain ⟨other, count⟩ := entry
    rw [add]
    split
    · simp only [List.map_cons, List.sum_cons]
      omega
    · split
      · simp only [List.map_cons, List.sum_cons]
        omega
      · simp only [List.map_cons, List.sum_cons, inductionHypothesis]
        omega

end Tally

namespace Diagnostics

/-- The numbers by kind are those of the kinds that occur, in the order of the kinds. -/
theorem countsByKind_eq (diagnostics : Diagnostics) :
    diagnostics.countsByKind = Tally.ofCounts DiagnosticKind.all diagnostics.count := by
  have counted : ∀ (entries : List Diagnostic) (count : DiagnosticKind → Nat),
      entries.foldl (fun tally entry => tally.add entry.kind)
          (Tally.ofCounts DiagnosticKind.all count) =
        Tally.ofCounts DiagnosticKind.all fun kind =>
          count kind + (entries.filter fun entry => entry.kind = kind).length := by
    intro entries
    induction entries with
    | nil => exact fun count => rfl
    | cons entry rest inductionHypothesis =>
      intro count
      rw [List.foldl_cons, Tally.add_ofCounts count DiagnosticKind.pairwise_all entry.kind.mem_all,
        inductionHypothesis]
      refine Tally.ofCounts_congr fun kind _ => ?_
      rw [List.filter_cons]
      by_cases same : entry.kind = kind
      · simp [same]
        omega
      · simp [same]
  have all := counted diagnostics.entries fun _ => 0
  simp only [Nat.zero_add] at all
  exact all

theorem sum_countsByKind (diagnostics : Diagnostics) :
    (diagnostics.countsByKind.map Prod.snd).sum = diagnostics.entries.length := by
  have counted : ∀ (entries : List Diagnostic) (tally : Tally),
      ((entries.foldl (fun tally entry => tally.add entry.kind) tally).map Prod.snd).sum =
        (tally.map Prod.snd).sum + entries.length := by
    intro entries
    induction entries with
    | nil => exact fun tally => rfl
    | cons entry rest inductionHypothesis =>
      intro tally
      rw [List.foldl_cons, inductionHypothesis, Tally.sum_add, List.length_cons]
      omega
  exact (counted diagnostics.entries []).trans (Nat.zero_add _)

end Diagnostics

/-! ### The rows of the table of counts -/

namespace Grid

theorem isPlain_label (kind : DiagnosticKind) : IsPlain kind.label := by
  cases kind <;> exact ⟨by decide, by decide, by decide⟩

end Grid

/-- A table with a number in each row shows its rows under two headings, and nothing if there are
none. -/
theorem rowsShown_countsTable (rows : List CountRow) (plain : ∀ row ∈ rows, Grid.IsPlain row.1) :
    Grid.rowsShown (countsTable rows) = if rows = [] then []
      else ["Diagnostic", "Count"] :: rows.map fun row => [row.1, row.2.repr] := by
  have headings : ∀ heading ∈ ["Diagnostic", "Count"], Grid.IsPlain heading :=
    List.forall_mem_cons.mpr ⟨⟨by decide, by decide, by decide⟩,
      List.forall_mem_singleton.mpr ⟨by decide, by decide, by decide⟩⟩
  cases rows with
  | nil => rfl
  | cons row rest =>
    have drawn : countsTable (row :: rest) = Grid.draw ["Diagnostic", "Count"]
        ((row :: rest).map fun row => [row.1, row.2.repr]) := rfl
    rw [if_neg (List.cons_ne_nil row rest), drawn, Grid.rowsShown_draw]
    · rw [List.forall_mem_cons, List.forall_mem_map]
      exact ⟨List.cons_ne_nil _ _, fun row _ => List.cons_ne_nil _ _⟩
    · rw [List.forall_mem_cons, List.forall_mem_map]
      exact ⟨headings, fun row member => List.forall_mem_cons.mpr ⟨plain row member,
        List.forall_mem_singleton.mpr (Grid.isPlain_repr row.2)⟩⟩

namespace Diagnostics

theorem hasErrors_iff (diagnostics : Diagnostics) :
    diagnostics.hasErrors = true ↔ 0 < diagnostics.size := by
  rw [hasErrors, isEmpty, Bool.not_eq_true', beq_eq_false_iff_ne, Nat.pos_iff_ne_zero]

/-- The rows for the kinds that occur, and the row for the reports without a kind. -/
def rowsAbove (diagnostics : Diagnostics) : List CountRow :=
  (DiagnosticKind.all.filter fun kind => 0 < diagnostics.count kind).map
      (fun kind => (kind.label, diagnostics.count kind)) ++
    if diagnostics.unclassified = [] then [] else [("Other", diagnostics.unclassified.length)]

theorem rowsAbove_eq (diagnostics : Diagnostics) : diagnostics.rowsAbove =
    diagnostics.countsByKind.map (fun (kind, count) => (kind.label, count)) ++
      if diagnostics.unclassified.isEmpty then []
      else [("Other", diagnostics.unclassified.length)] := by
  rw [rowsAbove, countsByKind_eq, Tally.ofCounts, List.map_map]
  simp only [List.isEmpty_iff]
  rfl

/-- The numbers of the rows above the last one add up to the number of reports. -/
theorem sum_rowsAbove (diagnostics : Diagnostics) :
    (diagnostics.rowsAbove.map Prod.snd).sum = diagnostics.size := by
  have unclassified : ((if diagnostics.unclassified.isEmpty then []
      else [("Other", diagnostics.unclassified.length)]).map Prod.snd).sum =
        diagnostics.unclassified.length := by
    split
    · rename_i nothing
      rw [List.isEmpty_iff.mp nothing]
      rfl
    · exact Nat.add_zero _
  rw [rowsAbove_eq, List.map_append, List.sum_append, List.map_map, unclassified, size,
    ← sum_countsByKind]
  rfl

/-- There are rows only if there are reports, and then the last row is the sum of those above. -/
theorem countRows_eq (diagnostics : Diagnostics) : diagnostics.countRows =
    if diagnostics.size = 0 then []
    else diagnostics.rowsAbove ++ [("Total", (diagnostics.rowsAbove.map Prod.snd).sum)] := by
  rw [countRows, ← rowsAbove_eq, sum_rowsAbove, isEmpty]
  by_cases nothing : diagnostics.size = 0
  · obtain ⟨entries, unclassified⟩ := diagnostics
    obtain ⟨noEntry, noText⟩ := Nat.add_eq_zero_iff.mp nothing
    obtain rfl : entries = [] := List.length_eq_zero_iff.mp noEntry
    obtain rfl : unclassified = [] := List.length_eq_zero_iff.mp noText
    rfl
  · rw [if_neg nothing, beq_eq_false_iff_ne.mpr nothing]
    rfl

theorem countRows_eq_nil_iff (diagnostics : Diagnostics) :
    diagnostics.countRows = [] ↔ diagnostics.size = 0 := by
  rw [countRows_eq]
  split
  · exact iff_of_true rfl ‹_›
  · exact iff_of_false (List.append_ne_nil_of_right_ne_nil _ (List.cons_ne_nil _ _)) ‹_›

theorem isPlain_countRows (diagnostics : Diagnostics) :
    ∀ row ∈ diagnostics.countRows, Grid.IsPlain row.1 := by
  have other : Grid.IsPlain "Other" := ⟨by decide, by decide, by decide⟩
  have total : Grid.IsPlain "Total" := ⟨by decide, by decide, by decide⟩
  rw [countRows, List.forall_mem_append, List.forall_mem_append, List.forall_mem_map]
  refine ⟨⟨fun entry _ => Grid.isPlain_label entry.1, ?_⟩, ?_⟩
  · split
    · exact List.forall_mem_nil _
    · exact List.forall_mem_singleton.mpr other
  · split
    · exact List.forall_mem_nil _
    · exact List.forall_mem_singleton.mpr total

/-- The text of the table shows its rows, and nothing without reports. -/
theorem rowsShown_table (diagnostics : Diagnostics) :
    Grid.rowsShown diagnostics.table = if diagnostics.size = 0 then []
      else ["Diagnostic", "Count"] :: diagnostics.countRows.map fun row => [row.1, row.2.repr] :=
  (rowsShown_countsTable diagnostics.countRows diagnostics.isPlain_countRows).trans
    (if_congr diagnostics.countRows_eq_nil_iff rfl rfl)

theorem table_eq_empty_iff (diagnostics : Diagnostics) :
    diagnostics.table = "" ↔ diagnostics.size = 0 := by
  constructor
  · intro empty
    have shown := diagnostics.rowsShown_table
    rw [empty] at shown
    by_contra some
    rw [if_neg some] at shown
    exact List.cons_ne_nil _ _ shown.symm
  · intro nothing
    rw [table, diagnostics.countRows_eq_nil_iff.mpr nothing]
    rfl

end Diagnostics

/-- Whatever a new collector is told, in whatever order: it keeps the errors with a kind and the
bare texts as they came. The kinds that occur are counted in the order of the kinds, and the numbers
and that of the texts add up to the number of reports. The table has no rows without a report, and
else one for each kind that occurs, one for the texts if there are any, and one with the sum of all
rows above it; these rows and no others are what its text shows. -/
theorem reports_add_up (calls : List ReportCall) :
    let kept := Diagnostics.ofCalls calls
    let occurring := DiagnosticKind.all.filter fun kind => 0 < kept.count kind
    let above := occurring.map (fun kind => (kind.label, kept.count kind)) ++
      if kept.unclassified = [] then [] else [("Other", kept.unclassified.length)]
    kept.entries = calls.filterMap ReportCall.diagnostic? ∧
      kept.unclassified = calls.filterMap ReportCall.text? ∧
      kept.countsByKind = occurring.map (fun kind => (kind, kept.count kind)) ∧
      (∀ kind, kind ∈ kept.countsByKind.map Prod.fst ↔ 0 < kept.count kind) ∧
      (kept.countsByKind.map Prod.snd).sum + kept.unclassified.length = kept.size ∧
      kept.size = calls.length ∧ (kept.hasErrors = true ↔ calls ≠ []) ∧
      kept.countRows =
        (if calls = [] then [] else above ++ [("Total", (above.map Prod.snd).sum)]) ∧
      (kept.table = "" ↔ calls = []) ∧
      Grid.rowsShown kept.table = if calls = [] then []
        else ["Diagnostic", "Count"] :: kept.countRows.map fun row => [row.1, row.2.repr] := by
  intro kept occurring above
  have size : kept.size = calls.length := Diagnostics.size_ofCalls calls
  have nothing : kept.size = 0 ↔ calls = [] := by rw [size, List.length_eq_zero_iff]
  have numbers : kept.countsByKind = occurring.map fun kind => (kind, kept.count kind) :=
    kept.countsByKind_eq
  refine ⟨?_, ?_, numbers, ?_, ?_, size, ?_, ?_, ?_, ?_⟩
  · exact congrArg Diagnostics.entries (Diagnostics.foldl_handTo {} calls)
  · exact congrArg Diagnostics.unclassified (Diagnostics.foldl_handTo {} calls)
  · intro kind
    rw [numbers, List.map_map]
    simp [occurring, kind.mem_all]
  · rw [Diagnostics.sum_countsByKind]
    rfl
  · rw [Diagnostics.hasErrors_iff, size, List.length_pos_iff]
  · exact kept.countRows_eq.trans (if_congr nothing rfl rfl)
  · exact kept.table_eq_empty_iff.trans nothing
  · exact kept.rowsShown_table.trans (if_congr nothing rfl rfl)

/-- An error without a kind counts in a row of its own, wherever it came among the others. -/
example : (Diagnostics.ofCalls [.byKind ⟨.undeclared, ⟨1, 2⟩⟩, .byText ⟨2, 1⟩ "out of memory",
    .byKind ⟨.nonFunctionVoid, ⟨3, 4⟩⟩, .byKind ⟨.undeclared, ⟨5, 6⟩⟩]).countRows =
      [("Non-function void", 1), ("Undeclared", 2), ("Other", 1), ("Total", 4)] := by decide

end NameBinding
