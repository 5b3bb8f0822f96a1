/-
This file says what a table of scopes answers by what was asked of it before, and nothing else. A
scope is open from its opening to the closing that matches it: between the two, openings and
closings stand in pairs. A closing without a scope matches nothing. In a scope a name stands for the
symbol of the first declaration of it that was made while the scope was the innermost one. The table
is followed along the steps: at any time its scopes are the open ones of the history, innermost
first, and the one with so many scopes inside it has as many openings more than closings behind its
own opening.
-/

import Mathlib.Data.List.Infix
import NameBinding.SymbolTable

namespace NameBinding

/-! ### Steps on a table -/

/-- What can be asked of a table. -/
inductive TableStep
  | push
  | pop
  | declare (name : String) (symbol : Symbol)
  | findLocal (name : String)
  | find (name : String)

/-- What a table answers. -/
inductive TableAnswer
  | done
  /-- What a name stands for. -/
  | found (symbol : Option Symbol)
  | refused (reason : TableError)

namespace TableAnswer

/-- The answer to a look-up. -/
def ofFound : Except TableError (Option Symbol) → TableAnswer
  | .ok symbol => .found symbol
  | .error reason => .refused reason

end TableAnswer

namespace SymbolTable

/-- The answer to a step that may change the table, and the table after it. A table that refuses a
step stays what it is. -/
def settle (table : SymbolTable) : Except TableError SymbolTable → TableAnswer × SymbolTable
  | .ok changed => (.done, changed)
  | .error reason => (.refused reason, table)

/-- Carries out a step. -/
def perform (table : SymbolTable) : TableStep → TableAnswer × SymbolTable
  | .push => (.done, table.push)
  | .pop => table.settle table.pop
  | .declare name symbol => table.settle (table.declare name symbol)
  | .findLocal name => (.ofFound (table.findLocal name), table)
  | .find name => (.ofFound (table.find name), table)

/-- The table after steps. -/
def after (table : SymbolTable) : List TableStep → SymbolTable
  | [] => table
  | step :: rest => (table.perform step).2.after rest

/-- The answers to steps, one after the other. -/
def answers (table : SymbolTable) : List TableStep → List TableAnswer
  | [] => []
  | step :: rest => (table.perform step).1 :: (table.perform step).2.answers rest

theorem answers_append (table : SymbolTable) (first second : List TableStep) :
    table.answers (first ++ second) =
      table.answers first ++ (table.after first).answers second := by
  induction first generalizing table with
  | nil => rfl
  | cons step rest inductionHypothesis =>
    exact congrArg (List.cons _) (inductionHypothesis (table.perform step).2)

theorem after_append (table : SymbolTable) (first second : List TableStep) :
    table.after (first ++ second) = (table.after first).after second := by
  induction first generalizing table with
  | nil => rfl
  | cons step rest inductionHypothesis => exact inductionHypothesis (table.perform step).2

theorem length_answers (table : SymbolTable) (steps : List TableStep) :
    (table.answers steps).length = steps.length := by
  induction steps generalizing table with
  | nil => rfl
  | cons step rest inductionHypothesis =>
    exact congrArg (· + 1) (inductionHypothesis (table.perform step).2)

/-- The answers to later steps are those that stand behind the answers to the earlier ones. -/
theorem drop_answers (table : SymbolTable) (before later : List TableStep) :
    (table.answers (before ++ later)).drop before.length = (table.after before).answers later := by
  rw [answers_append, ← table.length_answers before, List.drop_left]

end SymbolTable

namespace TableStep

/-- Whether a step opens a scope. -/
def isPush : TableStep → Bool
  | push => true
  | _ => false

/-- Whether a step closes a scope. -/
def isPop : TableStep → Bool
  | pop => true
  | _ => false

/-- The symbol that a step declares under a name. -/
def declared? (name : String) : TableStep → Option Symbol
  | declare other symbol => if other = name then some symbol else none
  | _ => none

end TableStep

/-! ### What a history says -/

/-- Steps that were carried out, oldest first. -/
abbrev TableHistory := List TableStep

namespace TableHistory

/-- How many steps open a scope. -/
def opened (history : TableHistory) : Nat :=
  history.countP TableStep.isPush

/-- How many steps close a scope. -/
def closed (history : TableHistory) : Nat :=
  history.countP TableStep.isPop

/-- Whether at no point more scopes were to be closed than were opened. -/
def IsBalanced (history : TableHistory) : Prop :=
  ∀ part, part <+: history → closed part ≤ opened part

instance (history : TableHistory) : Decidable history.IsBalanced :=
  decidable_of_iff (∀ part ∈ history.inits, closed part ≤ opened part) <| by
    simp only [List.mem_inits, IsBalanced]

/-- Whether openings and closings stand in pairs, the opening before the closing. -/
def IsBracketed (history : TableHistory) : Prop :=
  history.IsBalanced ∧ closed history = opened history

instance (history : TableHistory) : Decidable history.IsBracketed :=
  inferInstanceAs (Decidable (_ ∧ _))

/-- Whether a scope is open that was opened before these steps: none of them is the closing that
matches its opening. -/
def LeavesOpen (since : TableHistory) : Prop :=
  ∀ k < since.length, since[k]?.any TableStep.isPop = true → ¬ IsBracketed (since.take k)

instance (since : TableHistory) : Decidable since.LeavesOpen :=
  inferInstanceAs (Decidable (∀ k < since.length, _ → _))

/-- The open scopes, innermost first, each given by the steps since its opening. -/
def openScopes (history : TableHistory) : List TableHistory :=
  (List.range history.length).reverse.filterMap fun k =>
    if history[k]?.any TableStep.isPush = true ∧ LeavesOpen (history.drop (k + 1)) then
      some (history.drop (k + 1))
    else none

/-- The symbols that were declared under a name while no scope inside a scope was open, by the steps
since the opening of the scope. -/
def declarations (since : TableHistory) (name : String) : List Symbol :=
  (List.range since.length).filterMap fun k =>
    if IsBracketed (since.take k) then since[k]?.bind (TableStep.declared? name) else none

/-- What a name stands for in a scope: the symbol of the first declaration. -/
def held? (since : TableHistory) (name : String) : Option Symbol :=
  (since.declarations name).head?

/-- The answer to a step, by the steps before it. -/
def answer (history : TableHistory) : TableStep → TableAnswer
  | .push => .done
  | .pop =>
    match history.openScopes with
    | [] => .refused .scopeUnderflow
    | _ :: _ => .done
  | .declare name _ =>
    match history.openScopes with
    | [] => .refused .noActiveScope
    | innermost :: _ =>
      if (innermost.held? name).isSome then .refused (.duplicateName name) else .done
  | .findLocal name =>
    match history.openScopes with
    | [] => .refused .noActiveScope
    | innermost :: _ => .found (innermost.held? name)
  | .find name =>
    match history.openScopes with
    | [] => .refused .noActiveScope
    | scopes => .found (scopes.findSome? fun since => since.held? name)

/-- The answers to further steps, each by the steps before it. -/
def answers (history : TableHistory) : List TableStep → List TableAnswer
  | [] => []
  | step :: rest => history.answer step :: answers (history ++ [step]) rest

/-! ### One more step in a history -/

theorem opened_concat (history : TableHistory) (step : TableStep) :
    opened (history ++ [step]) = opened history + step.isPush.toNat := by
  rw [opened, List.countP_append, List.countP_singleton]
  cases step <;> rfl

theorem closed_concat (history : TableHistory) (step : TableStep) :
    closed (history ++ [step]) = closed history + step.isPop.toNat := by
  rw [closed, List.countP_append, List.countP_singleton]
  cases step <;> rfl

theorem isBalanced_concat (history : TableHistory) (step : TableStep) :
    IsBalanced (history ++ [step]) ↔
      IsBalanced history ∧ closed (history ++ [step]) ≤ opened (history ++ [step]) := by
  constructor
  · intro balanced
    exact ⟨fun part given => balanced part (given.trans (List.prefix_append _ _)),
      balanced _ (List.prefix_refl _)⟩
  · rintro ⟨balanced, whole⟩ part given
    rcases List.prefix_concat_iff.mp given with rfl | shorter
    · exact whole
    · exact balanced part shorter

/-- The step at the end of a history. -/
theorem getElem?_last (history : TableHistory) (step : TableStep) :
    (history ++ [step])[history.length]? = some step := by
  rw [List.getElem?_append_right (Nat.le_refl _), Nat.sub_self]
  rfl

theorem leavesOpen_concat (since : TableHistory) (step : TableStep) :
    LeavesOpen (since ++ [step]) ↔
      LeavesOpen since ∧ (step.isPop = true → ¬ IsBracketed since) := by
  have last := since.getElem?_last step
  rw [LeavesOpen, List.length_append, List.length_singleton]
  constructor
  · intro all
    constructor
    · intro k inside closing
      have before := all k (by omega)
      rw [List.getElem?_append_left inside, List.take_append_of_le_length (by omega)] at before
      exact before closing
    · intro closing
      have now := all since.length (Nat.lt_succ_self _)
      rw [last, List.take_left] at now
      exact now closing
  · rintro ⟨all, now⟩ k inside closing
    rcases Nat.lt_succ_iff_lt_or_eq.mp inside with earlier | rfl
    · rw [List.getElem?_append_left earlier] at closing
      rw [List.take_append_of_le_length (by omega)]
      exact all k earlier closing
    · rw [last] at closing
      rw [List.take_left]
      exact now closing

/-- A scope is open as long as not more scopes were closed behind its opening than opened. -/
theorem leavesOpen_iff (since : TableHistory) : LeavesOpen since ↔ IsBalanced since := by
  induction since using List.reverseRecOn with
  | nil =>
    refine iff_of_true (fun k inside => absurd inside (Nat.not_lt_zero k)) ?_
    rintro part given
    rw [List.prefix_nil.mp given]
    exact Nat.le_refl 0
  | append_singleton since step inductionHypothesis =>
    rw [leavesOpen_concat, isBalanced_concat, inductionHypothesis, closed_concat, opened_concat]
    refine and_congr_right fun balanced => ?_
    have whole := balanced since (List.prefix_refl _)
    cases step with
    | pop =>
      show (true = true → ¬ (IsBalanced since ∧ closed since = opened since)) ↔
        closed since + 1 ≤ opened since + 0
      constructor
      · intro other
        have different : closed since ≠ opened since := fun same => other rfl ⟨balanced, same⟩
        omega
      · rintro fewer _ ⟨_, same⟩
        omega
    | _ => exact iff_of_true nofun (Nat.le_add_right_of_le whole)

theorem declarations_concat (since : TableHistory) (step : TableStep) (name : String) :
    declarations (since ++ [step]) name = since.declarations name ++
      (if IsBracketed since then step.declared? name else none).toList := by
  rw [declarations, declarations, List.length_append, List.length_singleton, List.range_succ,
    List.filterMap_append]
  congr 1
  · refine List.filterMap_congr fun k inside => ?_
    rw [List.mem_range] at inside
    rw [List.getElem?_append_left inside, List.take_append_of_le_length (Nat.le_of_lt inside)]
  · rw [List.filterMap_cons, List.filterMap_nil, getElem?_last, List.take_left, Option.bind_some]
    cases (if IsBracketed since then step.declared? name else none) <;> rfl

theorem held?_concat (since : TableHistory) (step : TableStep) (name : String) :
    held? (since ++ [step]) name = (since.held? name).or
      (if IsBracketed since then step.declared? name else none) := by
  rw [held?, declarations_concat, List.head?_append, Option.head?_toList]
  rfl

/-- What becomes of a scope in one more step, if it stays open. -/
def extend (step : TableStep) (since : TableHistory) : Option TableHistory :=
  if LeavesOpen (since ++ [step]) then some (since ++ [step]) else none

theorem openScopes_concat (history : TableHistory) (step : TableStep) :
    openScopes (history ++ [step]) =
      (if step.isPush then [[]] else []) ++ history.openScopes.filterMap (extend step) := by
  rw [openScopes, openScopes, List.length_append, List.length_singleton, List.range_succ,
    List.reverse_append, List.reverse_singleton, List.filterMap_append, List.filterMap_filterMap]
  congr 1
  · -- Behind the last step there is none, so a scope that it opens is open.
    have openNow : LeavesOpen [] := fun k inside => absurd inside (Nat.not_lt_zero k)
    have nothing : (history ++ [step]).drop (history.length + 1) = [] :=
      List.drop_of_length_le (by rw [List.length_append, List.length_singleton])
    rw [List.filterMap_cons, List.filterMap_nil, getElem?_last, nothing, Option.any_some]
    by_cases opening : step.isPush = true
    · rw [if_pos ⟨opening, openNow⟩, if_pos opening]
    · rw [if_neg (fun both => opening both.1), if_neg opening]
  · refine List.filterMap_congr fun k inside => ?_
    rw [List.mem_reverse, List.mem_range] at inside
    rw [List.getElem?_append_left inside, List.drop_append_of_le_length inside]
    by_cases kept : history[k]?.any TableStep.isPush = true ∧ LeavesOpen (history.drop (k + 1))
    · rw [if_pos kept, Option.bind_some, extend]
      exact if_congr (and_iff_right kept.1) rfl rfl
    · rw [if_neg kept, Option.bind_none, if_neg]
      rintro ⟨opening, longer⟩
      exact kept ⟨opening, ((leavesOpen_concat _ step).mp longer).1⟩

end TableHistory

/-! ### The table along a history -/

open TableHistory

/-- Whether scopes are the open ones of a history, innermost first, of which the first has a number
of scopes inside it. -/
inductive Mirrors : Nat → List (Scope Symbol) → List TableHistory → Prop
  | nil {inside : Nat} : Mirrors inside [] []
  | cons {inside : Nat} {scope : Scope Symbol} {since : TableHistory} {outer : List (Scope Symbol)}
      {others : List TableHistory} (held : ∀ name, scope.find? name = since.held? name)
      (balanced : since.IsBalanced) (inner : since.opened = since.closed + inside)
      (tail : Mirrors (inside + 1) outer others) :
      Mirrors inside (scope :: outer) (since :: others)

namespace Mirrors

variable {inside next : Nat} {scopes : List (Scope Symbol)} {histories : List TableHistory}

/-- A step changes none of the scopes if it declares and closes nothing, or if another scope is
inside all of them. All that changes then is how many there are inside. -/
theorem extended (mirrors : Mirrors inside scopes histories) (step : TableStep)
    (aside : 0 < inside ∨ step.isPop = false ∧ ∀ name, step.declared? name = none)
    (change : next + step.isPop.toNat = inside + step.isPush.toNat) :
    Mirrors next scopes (histories.filterMap (extend step)) := by
  induction mirrors generalizing next with
  | nil => exact .nil
  | @cons inside scope since outer others held balanced inner tail inductionHypothesis =>
    have longer : IsBalanced (since ++ [step]) := by
      refine (isBalanced_concat since step).mpr ⟨balanced, ?_⟩
      rw [closed_concat, opened_concat]
      omega
    have stays : extend step since = some (since ++ [step]) :=
      if_pos ((leavesOpen_iff _).mpr longer)
    rw [List.filterMap_cons_some stays]
    refine .cons (fun name => ?_) longer ?_ (inductionHypothesis (.inl (Nat.succ_pos _)) ?_)
    · have nothing : (if IsBracketed since then step.declared? name else none) = none := by
        split
        · rename_i bracketed
          rcases aside with deeper | ⟨_, other⟩
          · have pairs := bracketed.2
            omega
          · exact other name
        · rfl
      rw [held?_concat, nothing, Option.or_none]
      exact held name
    · rw [closed_concat, opened_concat]
      omega
    · omega

theorem findSome? (mirrors : Mirrors inside scopes histories) (name : String) :
    scopes.findSome? (fun scope => scope.find? name) =
      histories.findSome? fun since => since.held? name := by
  induction mirrors with
  | nil => rfl
  | cons held _ _ _ inductionHypothesis =>
    rw [List.findSome?_cons, List.findSome?_cons, held name, inductionHypothesis]

end Mirrors

/-- A declaration that is accepted is found under its name, and all other names as before. -/
theorem Scope.find?_concat (scope : Scope Symbol) (declared name : String) (symbol : Symbol) :
    Scope.find? ⟨scope.entries ++ [(declared, symbol)]⟩ name =
      (scope.find? name).or (if declared = name then some symbol else none) := by
  rw [find?, find?, List.lookup_append]
  congr 1
  by_cases same : declared = name
  · rw [if_pos same, same, List.lookup_cons_self]
  · rw [if_neg same, List.lookup_cons, beq_eq_false_iff_ne.mpr (Ne.symm same)]
    rfl

/-- A declaration touches the innermost scope only, and is found there if its name was not. -/
theorem SymbolTable.perform_declare (scope : Scope Symbol) (outer : List (Scope Symbol))
    (name : String) (symbol : Symbol) : ∃ changed : Scope Symbol,
      ((⟨scope :: outer⟩ : SymbolTable).perform (.declare name symbol)).2 = ⟨changed :: outer⟩ ∧
        ∀ other, changed.find? other =
          (scope.find? other).or (if name = other then some symbol else none) := by
  show ∃ changed, (settle _ ((scope.declare name symbol).map _)).2 = _ ∧ _
  rw [Scope.declare]
  cases located : scope.find? name with
  | some found =>
    refine ⟨scope, rfl, fun other => ?_⟩
    by_cases same : name = other
    · rw [← same, located]
      rfl
    · rw [if_neg same, Option.or_none]
  | none => exact ⟨_, rfl, fun other => scope.find?_concat name other symbol⟩

/-- Whether the scopes of a table are the open ones of a history. -/
def SymbolTable.Reflects (table : SymbolTable) (history : TableHistory) : Prop :=
  Mirrors 0 table.scopes history.openScopes

namespace SymbolTable.Reflects

variable {table : SymbolTable} {history : TableHistory}

/-- The answer to a step follows from the steps before it. -/
theorem answer (reflects : table.Reflects history) (step : TableStep) :
    (table.perform step).1 = history.answer step := by
  obtain ⟨scopes⟩ := table
  rw [Reflects] at reflects
  cases step with
  | push => rfl
  | pop =>
    rw [TableHistory.answer]
    generalize history.openScopes = histories at reflects
    cases reflects <;> rfl
  | declare name symbol =>
    rw [TableHistory.answer]
    generalize history.openScopes = histories at reflects
    cases reflects with
    | nil => rfl
    | @cons _ scope since _ _ held =>
      dsimp only
      rw [← held name]
      show (settle _ ((scope.declare name symbol).map _)).1 = _
      rw [Scope.declare]
      cases scope.find? name <;> rfl
  | findLocal name =>
    rw [TableHistory.answer]
    generalize history.openScopes = histories at reflects
    cases reflects with
    | nil => rfl
    | cons held => exact congrArg TableAnswer.found (held name)
  | find name =>
    rw [TableHistory.answer]
    generalize history.openScopes = histories at reflects
    have found := reflects.findSome? name
    cases reflects with
    | nil => rfl
    | cons held => exact congrArg TableAnswer.found found

theorem push (reflects : table.Reflects history) : table.push.Reflects (history ++ [.push]) := by
  rw [Reflects, openScopes_concat]
  refine .cons (fun name => rfl) ((leavesOpen_iff []).mp ?_) rfl ?_
  · exact fun k inside => absurd inside (Nat.not_lt_zero k)
  · exact reflects.extended .push (.inr ⟨rfl, fun _ => rfl⟩) rfl

/-- After a step the table reflects the history with this step. -/
theorem perform (reflects : table.Reflects history) (step : TableStep) :
    (table.perform step).2.Reflects (history ++ [step]) := by
  obtain ⟨scopes⟩ := table
  cases step with
  | push => exact reflects.push
  | findLocal name | find name =>
    rw [Reflects, openScopes_concat]
    exact reflects.extended _ (.inr ⟨rfl, fun _ => rfl⟩) rfl
  | pop =>
    rw [Reflects, openScopes_concat]
    rw [Reflects] at reflects
    generalize history.openScopes = histories at reflects ⊢
    cases reflects with
    | nil => exact .nil
    | @cons _ scope since outer others held balanced inner tail =>
      -- The closing matches the opening of the innermost scope and of no other.
      have closes : extend .pop since = none := by
        refine if_neg fun stays => ?_
        have whole := ((isBalanced_concat _ _).mp ((leavesOpen_iff _).mp stays)).2
        rw [closed_concat, opened_concat, inner] at whole
        exact absurd whole (Nat.not_succ_le_self _)
      rw [List.filterMap_cons_none closes]
      exact tail.extended .pop (.inl (Nat.succ_pos 0)) rfl
  | declare name symbol =>
    rw [Reflects, openScopes_concat]
    rw [Reflects] at reflects
    generalize history.openScopes = histories at reflects ⊢
    cases reflects with
    | nil => exact .nil
    | @cons _ scope since outer others held balanced inner tail =>
      have longer : IsBalanced (since ++ [.declare name symbol]) := by
        refine (isBalanced_concat _ _).mpr ⟨balanced, ?_⟩
        rw [closed_concat, opened_concat, inner]
        exact Nat.le_refl _
      have stays : extend (.declare name symbol) since = some (since ++ [.declare name symbol]) :=
        if_pos ((leavesOpen_iff _).mpr longer)
      have bracketed : IsBracketed since := ⟨balanced, inner.symm⟩
      obtain ⟨changed, result, found⟩ := perform_declare scope outer name symbol
      rw [result, List.filterMap_cons_some stays]
      refine .cons (fun other => ?_) longer ?_ (tail.extended _ (.inl (Nat.succ_pos 0)) rfl)
      · rw [found, held?_concat, held other, if_pos bracketed]
        rfl
      · rw [closed_concat, opened_concat, inner]
        rfl

/-- The answers to any steps follow from the steps before each of them. -/
theorem answers (reflects : table.Reflects history) (steps : List TableStep) :
    table.answers steps = history.answers steps := by
  induction steps generalizing table history with
  | nil => rfl
  | cons step rest inductionHypothesis =>
    rw [SymbolTable.answers, TableHistory.answers, reflects.answer step,
      inductionHypothesis (reflects.perform step)]

theorem empty : SymbolTable.empty.Reflects [] := .nil

theorem new : SymbolTable.new.Reflects [.push] := empty.push

end SymbolTable.Reflects

/-! ### Steps without a trace -/

namespace SymbolTable

/-- A step that is refused leaves the table as it was. -/
theorem perform_refused {table : SymbolTable} {step : TableStep} {reason : TableError}
    (refused : (table.perform step).1 = .refused reason) : (table.perform step).2 = table := by
  have settled : ∀ outcome, (table.settle outcome).1 = .refused reason →
      (table.settle outcome).2 = table := by
    rintro (_ | _) given
    · rfl
    · exact nomatch given
  cases step with
  | push => exact nomatch refused
  | pop | declare => exact settled _ refused
  | findLocal | find => rfl

/-- A step leaves the scopes around a number of innermost ones as they are, if there is an innermost
one to be declared in or to be closed. -/
theorem perform_inside (scope : Scope Symbol) (inner outer : List (Scope Symbol))
    (step : TableStep) : ∃ changed : List (Scope Symbol),
      ((⟨scope :: inner ++ outer⟩ : SymbolTable).perform step).2 = ⟨changed ++ outer⟩ ∧
        changed.length + closed [step] = inner.length + 1 + opened [step] := by
  cases step with
  | push => exact ⟨Scope.empty :: scope :: inner, rfl, rfl⟩
  | pop => exact ⟨inner, rfl, rfl⟩
  | declare name symbol =>
    obtain ⟨changed, result, -⟩ := perform_declare scope (inner ++ outer) name symbol
    exact ⟨changed :: inner, result, rfl⟩
  | findLocal name | find name => exact ⟨scope :: inner, rfl, rfl⟩

/-- Steps leave the scopes around a number of innermost ones as they are, if at no point all of
these are closed. -/
theorem after_inside (inner outer : List (Scope Symbol)) (steps : List TableStep)
    (within : ∀ part, part <+: steps → closed part < opened part + inner.length) :
    ∃ changed : List (Scope Symbol),
      (⟨inner ++ outer⟩ : SymbolTable).after steps = ⟨changed ++ outer⟩ ∧
        changed.length + closed steps = inner.length + opened steps := by
  induction steps generalizing inner with
  | nil => exact ⟨inner, rfl, rfl⟩
  | cons step rest inductionHypothesis =>
    obtain ⟨scope, others, rfl⟩ : ∃ scope others, inner = scope :: others :=
      List.exists_cons_of_length_pos (Nat.zero_add inner.length ▸ within [] List.nil_prefix)
    obtain ⟨between, result, length⟩ := perform_inside scope others outer step
    have split : ∀ part, opened (step :: part) = opened [step] + opened part ∧
        closed (step :: part) = closed [step] + closed part :=
      fun part => ⟨@List.countP_append _ _ [step] part, @List.countP_append _ _ [step] part⟩
    obtain ⟨changed, after, balance⟩ := inductionHypothesis between fun part given => by
      have longer := within (step :: part) (List.cons_prefix_cons.mpr ⟨rfl, given⟩)
      rw [(split part).1, (split part).2, List.length_cons] at longer
      omega
    refine ⟨changed, ?_, ?_⟩
    · rw [SymbolTable.after, result]
      exact after
    · rw [(split rest).1, (split rest).2, List.length_cons]
      omega

/-- A scope that is opened, with openings and closings in pairs while it is open, and closed again
leaves the table as it was. -/
theorem after_bracketed (table : SymbolTable) {inner : List TableStep}
    (bracketed : IsBracketed inner) : table.after (.push :: inner ++ [.pop]) = table := by
  obtain ⟨scopes⟩ := table
  obtain ⟨changed, result, length⟩ := after_inside [Scope.empty] scopes inner fun part given =>
    Nat.lt_succ_of_le (bracketed.1 part given)
  obtain ⟨scope, rfl⟩ : ∃ scope, changed = [scope] := List.length_eq_one_iff.mp (by
    have pairs := bracketed.2
    rw [List.length_singleton] at length
    omega)
  rw [List.cons_append, SymbolTable.after]
  show SymbolTable.after ⟨[Scope.empty] ++ scopes⟩ (inner ++ [.pop]) = _
  rw [after_append, result]
  rfl

end SymbolTable

/-- A table of scopes answers by the history alone: a scope is open from its opening to the closing
that matches it, and in it a name stands for the first declaration that was made while it was the
innermost one. A refused step changes no later answer, and neither does a scope that is opened and
closed again with everything that is done in it. -/
theorem table_answers_by_history :
    (∀ steps : List TableStep, SymbolTable.empty.answers steps = TableHistory.answers [] steps ∧
      SymbolTable.new.answers steps = TableHistory.answers [.push] steps) ∧
    (∀ (table : SymbolTable) (before later : List TableStep) (step : TableStep)
        (reason : TableError), ((table.after before).perform step).1 = .refused reason →
      table.answers (before ++ step :: later) = table.answers before ++ .refused reason ::
        (table.answers (before ++ later)).drop before.length) ∧
    ∀ (table : SymbolTable) (before inner later : List TableStep), IsBracketed inner →
      table.answers (before ++ ((.push :: inner ++ [.pop]) ++ later)) =
        table.answers (before ++ (.push :: inner ++ [.pop])) ++
          (table.answers (before ++ later)).drop before.length := by
  refine ⟨fun steps => ⟨SymbolTable.Reflects.empty.answers steps,
    SymbolTable.Reflects.new.answers steps⟩, ?_, ?_⟩
  · intro table before later step reason refused
    rw [SymbolTable.drop_answers, SymbolTable.answers_append, SymbolTable.answers, refused,
      SymbolTable.perform_refused refused]
  · intro table before inner later bracketed
    rw [SymbolTable.drop_answers, ← List.append_assoc, SymbolTable.answers_append,
      SymbolTable.after_append, SymbolTable.after_bracketed _ bracketed]

/-- A name that is declared a second time in its scope is refused, and a declaration of it in a
scope inside, which hides the first one, is forgotten when that scope is closed. -/
theorem table_answers_by_history_shadowing :
    let first : Symbol := .plain "int"
    let second : Symbol := .structInstance "Pair"
    let before : List TableStep := [.declare "x" first]
    let inner : List TableStep := [.declare "x" second, .push, .find "x", .pop, .find "x"]
    let later : List TableStep := [.find "x", .pop, .find "x"]
    IsBracketed inner ∧
      SymbolTable.new.answers (before ++ .declare "x" second :: later) =
        [.done, .refused (.duplicateName "x"), .found (some first), .done,
          .refused .noActiveScope] ∧
      SymbolTable.new.answers (before ++ ((.push :: inner ++ [.pop]) ++ later)) =
        [.done, .done, .done, .done, .found (some second), .done, .found (some second), .done,
          .found (some first), .done, .refused .noActiveScope] ∧
      TableHistory.answers [.push] (before ++ .declare "x" second :: later) =
        SymbolTable.new.answers (before ++ .declare "x" second :: later) := by
  intro first second before inner later
  have bracketed : IsBracketed inner := by decide
  obtain ⟨byHistory, withoutRefused, withoutBracketed⟩ := table_answers_by_history
  refine ⟨bracketed, ?_, ?_, ?_⟩
  · rw [withoutRefused _ before later _ (.duplicateName "x") rfl]
    rfl
  · rw [withoutBracketed _ before inner later bracketed]
    rfl
  · exact (byHistory _).2.symm

end NameBinding
