/-
This file splits an analysis into its value and its trace. A step that follows another one starts
from the value and the table that the first leaves, and its events come behind those of the first.
That is all that later files use of how steps are put together: a result is read off the two
projections, and the naming errors are read off the trace one part after the other.
-/

import NameBinding.Analysis.Program

namespace NameBinding

namespace Traced

variable {α β : Type}

@[simp] theorem value_bind (first : Traced α) (next : α → Traced β) :
    (first >>= next).value = (next first.value).value := rfl

@[simp] theorem trace_bind (first : Traced α) (next : α → Traced β) :
    (first >>= next).trace = first.trace ++ (next first.value).trace := rfl

@[simp] theorem value_pure (value : α) : (pure value : Traced α).value = value := rfl

@[simp] theorem trace_pure (value : α) : (pure value : Traced α).trace = [] := rfl

theorem pure_bind (value : α) (next : α → Traced β) : pure value >>= next = next value := rfl

theorem mk_bind (value : α) (trace : Trace) (next : α → Traced β) :
    Traced.mk value trace >>= next = ⟨(next value).value, trace ++ (next value).trace⟩ := rfl

theorem bind_pure (outcome : Traced α) : outcome >>= pure = outcome := by
  show Traced.mk outcome.value (outcome.trace ++ []) = outcome
  rw [List.append_nil]

theorem bind_assoc {γ : Type} (outcome : Traced α) (next : α → Traced β) (last : β → Traced γ) :
    outcome >>= next >>= last = outcome >>= fun value => next value >>= last := by
  show Traced.mk _ ((outcome.trace ++ _) ++ _) = _
  rw [List.append_assoc]
  rfl

end Traced

/-! ### The naming errors of a trace -/

/-- Whether an event is something else than a naming error. -/
def Event.isSilent : Event → Bool
  | .reported _ => false
  | _ => true

namespace Trace

@[simp] theorem diagnostics_append (first second : Trace) :
    Trace.diagnostics (first ++ second) = first.diagnostics ++ second.diagnostics :=
  List.filterMap_append

@[simp] theorem diagnostics_scopeEntered (depth : Nat) :
    Trace.diagnostics [.scopeEntered depth] = [] := rfl

theorem diagnostics_cons_silent (event : Event) (rest : Trace) (silent : event.isSilent = true) :
    Trace.diagnostics (event :: rest) = rest.diagnostics := by
  cases event with
  | reported diagnostic => exact absurd silent Bool.false_ne_true
  | _ => rfl

/-- The collector ends with the naming errors of the trace, in their order. -/
theorem entries_deliver (trace : Trace) :
    (trace.deliver ({} : Diagnostics)).entries = trace.diagnostics := by
  have collected : ∀ (reports : List Diagnostic) (sink : Diagnostics),
      (reports.foldl Sink.report sink).entries = sink.entries ++ reports := by
    intro reports
    induction reports with
    | nil => exact fun sink => (List.append_nil _).symm
    | cons report rest inductionHypothesis =>
      intro sink
      rw [List.foldl_cons, inductionHypothesis]
      exact List.append_assoc sink.entries [report] rest
  exact collected trace.diagnostics {}

end Trace

/-! ### One step on a table after another -/

section

variable {σ α β : Type}

theorem run_bind_value (first : Declaring σ α) (next : α → Declaring σ β) (current : σ) :
    ((first >>= next).run current).value =
      ((next (first.run current).value.1).run (first.run current).value.2).value := rfl

theorem run_bind_trace (first : Declaring σ α) (next : α → Declaring σ β) (current : σ) :
    ((first >>= next).run current).trace = (first.run current).trace ++
      ((next (first.run current).value.1).run (first.run current).value.2).trace := rfl

theorem run_lift_value (step : Traced α) (current : σ) :
    ((liftM step : Declaring σ α).run current).value = (step.value, current) := rfl

theorem run_lift_trace (step : Traced α) (current : σ) :
    ((liftM step : Declaring σ α).run current).trace = step.trace :=
  List.append_nil step.trace

theorem run_lift_bind (step : Traced α) (next : α → Declaring σ β) (current : σ) :
    ((liftM step >>= next : Declaring σ β).run current) =
      ⟨((next step.value).run current).value,
        step.trace ++ ((next step.value).run current).trace⟩ := by
  show Traced.mk _ ((step.trace ++ []) ++ _) = _
  rw [List.append_nil]
  rfl

end

end NameBinding
