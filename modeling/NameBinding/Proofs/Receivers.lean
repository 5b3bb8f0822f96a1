/-
This file compares two analyses with different receivers. The receiver changes from error to error,
and a step could tell a receiver of an error in a way that only one that takes texts understands, or
only one that collects the errors by their kind. None does: what both are told is the account that
the analysis gives without a receiver. So it is enough to follow the two receivers through one
event, and then along an account, since every analysis and every session comes with one.
-/

import NameBinding.Proofs.Relaying

namespace NameBinding

/-- Whether a receiver has no way of its own to take an error by its kind. -/
def Sink.IsTextOnly (σ : Type) [Sink σ] : Prop :=
  ∀ (sink : σ) (diagnostic : Diagnostic),
    Sink.report sink diagnostic = Sink.reportText sink diagnostic.pos diagnostic.message

section

variable {σ α : Type} [Sink σ]

/-- A receiver of texts is told the wording of an error. -/
theorem Analyzer.report_eq_reportText (textOnly : Sink.IsTextOnly σ) (kind : DiagnosticKind)
    (pos : Position) :
    (report kind pos : Reporting σ Unit) = reportText pos kind.message := by
  funext analyzer
  rw [report, reportText]
  exact congrArg (fun sink => ((), { analyzer with sink := sink }))
    (textOnly analyzer.sink ⟨kind, pos⟩)

/-- The analyzer at the end of an account was handed its errors, and counted the closings that were
refused in it. -/
theorem Trace.foldl_take (trace : Trace) (analyzer : Analyzer σ) :
    trace.foldl Analyzer.take analyzer =
      ⟨trace.deliver analyzer.sink, analyzer.underflows + trace.underflows⟩ := by
  induction trace generalizing analyzer with
  | nil => rfl
  | cons event rest inductionHypothesis =>
    rw [List.foldl_cons, inductionHypothesis]
    cases event with
    | leaveRefused =>
      have counted : Trace.underflows (.leaveRefused :: rest) = Trace.underflows rest + 1 := rfl
      rw [counted, Nat.add_comm (Trace.underflows rest), ← Nat.add_assoc]
      rfl
    | _ => rfl

/-- The collector is handed the errors of the program, and the names are bound as without it. -/
theorem Program.run_analyze (program : Program) :
    (Analyzer.analyze program).run { sink := ({} : Diagnostics) } =
      (program.check.1, ⟨program.check.2, program.analyze.trace.underflows⟩) := by
  rw [Analyzer.analyze_relays program, Trace.foldl_take, Nat.zero_add]
  rfl

/-! ### Two receivers side by side -/

/-- Whether a receiver was told what the collector has kept since the receiver was at the start: the
position and the wording of each error in turn. -/
structure Analyzer.Follows (start : σ) (told : Analyzer σ) (collecting : Analyzer Diagnostics) :
    Prop where
  received : told.sink = collecting.sink.entries.foldl
    (fun sink entry => Sink.reportText sink entry.pos entry.message) start
  classified : collecting.sink.unclassified = []
  underflows : told.underflows = collecting.underflows

namespace Analyzer.Follows

variable {start : σ} {told : Analyzer σ} {collecting : Analyzer Diagnostics}

theorem initial (start : σ) : Follows start { sink := start } { sink := {} } :=
  ⟨rfl, rfl, rfl⟩

theorem take (textOnly : Sink.IsTextOnly σ) (follows : Follows start told collecting)
    (event : Event) : Follows start (told.take event) (collecting.take event) := by
  cases event with
  | reported diagnostic =>
    have kept : (collecting.take (.reported diagnostic)).sink.entries =
        collecting.sink.entries ++ [diagnostic] := rfl
    refine ⟨?_, follows.classified, follows.underflows⟩
    rw [kept, List.foldl_append, ← follows.received]
    exact textOnly told.sink diagnostic
  | leaveRefused =>
    exact ⟨follows.received, follows.classified, congrArg (· + 1) follows.underflows⟩
  | _ => exact follows

theorem foldl_take (textOnly : Sink.IsTextOnly σ) (follows : Follows start told collecting)
    (trace : Trace) :
    Follows start (trace.foldl Analyzer.take told) (trace.foldl Analyzer.take collecting) := by
  induction trace generalizing told collecting with
  | nil => exact follows
  | cons event rest inductionHypothesis => exact inductionHypothesis (follows.take textOnly event)

/-- After a step that has the same account with both receivers, they still agree, and the step gives
the same to both. -/
theorem relayed (textOnly : Sink.IsTextOnly σ) (follows : Follows start told collecting)
    {step : Reporting σ α} {collectingStep : Reporting Diagnostics α} {traced : Traced α}
    (relays : Relays step traced) (collects : Relays collectingStep traced) :
    (step.run told).1 = (collectingStep.run collecting).1 ∧
      Follows start (step.run told).2 (collectingStep.run collecting).2 := by
  rw [relays told, collects collecting]
  exact ⟨rfl, follows.foldl_take textOnly traced.trace⟩

end Analyzer.Follows

end

/-! ### A receiver of texts -/

namespace TextSink

theorem isTextOnly : Sink.IsTextOnly TextSink := fun _ _ => rfl

/-- A receiver of texts keeps all that it is told, in order. -/
theorem lines_foldl (entries : List Diagnostic) (sink : TextSink) :
    (entries.foldl (fun sink entry => Sink.reportText sink entry.pos entry.message) sink).lines =
      sink.lines ++ entries.map fun entry => (entry.pos, entry.message) := by
  induction entries generalizing sink with
  | nil => exact (List.append_nil _).symm
  | cons entry rest inductionHypothesis =>
    rw [List.foldl_cons, inductionHypothesis, List.map_cons]
    exact List.append_assoc sink.lines [_] _

/-- The lines of a receiver that was new at the start are the entries of the collector. -/
theorem lines_of_follows {told : Analyzer TextSink} {collecting : Analyzer Diagnostics}
    (follows : told.Follows {} collecting) :
    told.sink.lines = collecting.sink.entries.map fun entry => (entry.pos, entry.message) := by
  rw [follows.received, lines_foldl]
  rfl

end TextSink

/-- A step that has one account with all receivers gives the same with each of them, and it tells
them the same. -/
theorem Relays.same_for_receivers {σ α : Type} [Sink σ] {traced : Traced α}
    (step : (σ : Type) → [Sink σ] → Reporting σ α)
    (relays : ∀ (σ : Type) [Sink σ], Relays (step σ) traced) (textOnly : Sink.IsTextOnly σ)
    (start : σ) :
    let collected := (step Diagnostics).run { sink := {} }
    let told := (step σ).run { sink := start }
    let kept := (step TextSink).run { sink := {} }
    told.1 = collected.1 ∧ told.2.Follows start collected.2 ∧
      kept.1 = collected.1 ∧ kept.2.underflows = collected.2.underflows ∧
      kept.2.sink.lines = collected.2.sink.entries.map fun entry => (entry.pos, entry.message) := by
  intro collected told kept
  obtain ⟨same, follows⟩ :=
    (Analyzer.Follows.initial start).relayed textOnly (relays σ) (relays Diagnostics)
  obtain ⟨sameKept, followsKept⟩ :=
    (Analyzer.Follows.initial {}).relayed TextSink.isTextOnly (relays TextSink) (relays Diagnostics)
  exact ⟨same, follows, sameKept, followsKept.underflows, TextSink.lines_of_follows followsKept⟩

/-- An analysis is the same for every receiver. One that takes texts only is told the position and
the wording of each error that the collector keeps, one after the other and nothing else, so these
are the lines of a receiver that keeps them; the collector keeps nothing without a kind; and the
trees, the answers and the numbers of refused closings are the same. The trees, the answers and the
errors are also those of the analysis that has no receiver at hand. This holds of the analysis of a
program, with symbols on it or without, and of any session. -/
theorem analysis_same_for_receivers {σ : Type} [Sink σ] (textOnly : Sink.IsTextOnly σ)
    (start : σ) :
    (∀ program : Program,
      let collected := (Analyzer.analyze program).run { sink := ({} : Diagnostics) }
      let told := (Analyzer.analyze program).run { sink := start }
      let kept := (Analyzer.analyze program).run { sink := ({} : TextSink) }
      collected.1 = program.check.1 ∧ collected.2.sink = program.check.2 ∧
        told.1 = collected.1 ∧ told.2.Follows start collected.2 ∧
        kept.1 = collected.1 ∧ kept.2.underflows = collected.2.underflows ∧
        kept.2.sink.lines = collected.2.sink.entries.map fun entry => (entry.pos, entry.message)) ∧
    ∀ (session : Session) (commands : List Command),
      let collected := (Analyzer.run session commands).run { sink := ({} : Diagnostics) }
      let told := (Analyzer.run session commands).run { sink := start }
      let kept := (Analyzer.run session commands).run { sink := ({} : TextSink) }
      collected.1 = (session.run commands).value ∧
        told.1 = collected.1 ∧ told.2.Follows start collected.2 ∧
        kept.1 = collected.1 ∧ kept.2.underflows = collected.2.underflows ∧
        kept.2.sink.lines =
          collected.2.sink.entries.map fun entry => (entry.pos, entry.message) := by
  constructor
  · intro program
    have checked := program.run_analyze
    exact ⟨congrArg Prod.fst checked, congrArg (fun ended => ended.2.sink) checked,
      Relays.same_for_receivers (fun _ => Analyzer.analyze program)
        (fun _ => Analyzer.analyze_relays program) textOnly start⟩
  · intro session commands
    exact ⟨congrArg Prod.fst (Analyzer.run_relays session commands { sink := ({} : Diagnostics) }),
      Relays.same_for_receivers (fun _ => Analyzer.run session commands)
        (fun _ => Analyzer.run_relays session commands) textOnly start⟩

/-- Without a scope a closing is refused and a look-up is no error; in a new scope the look-up fails
and is told with its place. -/
theorem analysis_same_for_receivers_straying :
    let use : Command := .once (.expr (.id ⟨"x", ⟨3, 1⟩, none⟩))
    let commands : List Command := [.leave, use, .enter, use]
    let collected := (Analyzer.run { table := .empty } commands).run { sink := ({} : Diagnostics) }
    let told := (Analyzer.run { table := .empty } commands).run { sink := ({} : TextSink) }
    Sink.IsTextOnly TextSink ∧ told.1 = collected.1 ∧ told.2.Follows {} collected.2 ∧
      told.2.underflows = 1 ∧ told.2.sink.lines = [(⟨3, 1⟩, "Identifier undeclared")] := by
  intro use commands collected told
  have session :=
    (analysis_same_for_receivers TextSink.isTextOnly {}).2 { table := .empty } commands
  exact ⟨TextSink.isTextOnly, session.2.1, session.2.2.1, rfl, rfl⟩

end NameBinding
