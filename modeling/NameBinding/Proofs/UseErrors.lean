/-
This file proves that the errors of uses and the uses that stay unbound are two accounts of the
same failures. Every reference that stays unbound is an error. A field that stays unbound is one as
well, unless it stays so only because the name before it did. The count goes access by access: an
access can be at fault by its base, which is bound and has no fields, or by its field, but never by
both, and it is at fault if its field stays unbound behind a base that does not.
-/

import NameBinding.Proofs.Accounts

namespace NameBinding

/-! ### Uses that stay unbound -/

/-- Whether the last name of an expression is an identifier or a field without a symbol. -/
def Expr.endsUnbound : Expr → Bool
  | id ident => !ident.isBound
  | access _ field _ => !field.isBound
  | _ => false

namespace Visit

/-- Whether this is a reference without a symbol. -/
def isUnboundReference : Visit → Bool
  | ident name role => role = .reference && !name.isBound
  | access _ _ _ => false

/-- Whether this is an access whose field has no symbol, with a base that does not end in an
identifier or a field without one. -/
def isUnboundField : Visit → Bool
  | ident _ _ => false
  | access base field _ => !field.isBound && !base.endsUnbound

/-- Whether this is a reference or a field without a symbol. -/
def isUnboundUse : Visit → Bool
  | ident name role => role.isBindable && !name.isBound
  | access _ _ _ => false

end Visit

/-- How many references stay unbound, and how many fields do so behind a name that does not. -/
def openUses (visits : List Visit) : Nat :=
  visits.countP Visit.isUnboundReference + visits.countP Visit.isUnboundField

@[simp] theorem openUses_append (first second : List Visit) :
    openUses (first ++ second) = openUses first + openUses second := by
  simp only [openUses, List.countP_append]
  omega

theorem openUses_cons (visit : Visit) (rest : List Visit) :
    openUses (visit :: rest) = openUses [visit] + openUses rest :=
  openUses_append [visit] rest

/-- An access counts if its field has no symbol and its base ends in no name without one. -/
theorem openUses_field (base : Expr) (field : Ident) (exposed : Option Symbol) :
    openUses [.ident field .field, .access base field exposed] =
      (!field.isBound && !base.endsUnbound).toNat := by
  cases counted : !field.isBound && !base.endsUnbound <;>
    simp [openUses, Visit.isUnboundReference, Visit.isUnboundField, counted]

/-! ### The errors of an expression -/

namespace Expr

/-- An access is blamed once if its field stays unbound behind a name that does not. -/
theorem openUses_access (meaning : String → Option Symbol) (base : Expr) (field : Ident)
    (exposed : Option Symbol) :
    (base.followFault? meaning).toList.length +
        ((Use.member base field false).fault? meaning).toList.length =
      openUses [(Use.member base field false).found meaning,
        (Use.access base field exposed).found meaning] := by
  have denoted : (access base field exposed).denoted? meaning =
      (base.members? meaning).bind fun members => members.find? field.name := rfl
  refine Eq.trans ?_ (openUses_field (base.bound meaning)
    { field with symbol := (access base field exposed).denoted? meaning } _).symm
  simp only [Ident.isBound, denoted]
  cases base with
  | id ident =>
    have members : (id ident).members? meaning =
        (meaning ident.name).bind (Symbol.members? meaning) := rfl
    simp only [followFault?, Use.fault?, members, bound, endsUnbound, Ident.isBound]
    cases meaning ident.name with
    | none => rfl
    | some symbol =>
      simp only [Option.bind_some]
      cases symbol.members? meaning with
      | none => rfl
      | some members => cases located : members.find? field.name <;> simp [located]
  | access base inner exposed =>
    simp only [followFault?, Use.fault?, Use.baseFault?, members?_eq, exposed?, bound, endsUnbound,
      Ident.isBound]
    cases (access base inner exposed).denoted? meaning with
    | none => rfl
    | some symbol =>
      simp only [Option.bind_some]
      cases symbol.structType? meaning with
      | none => rfl
      | some definition =>
        simp only [Option.bind_some]
        cases definition.fields? with
        | none => rfl
        | some members => cases located : members.find? field.name <;> simp [located]
  | _ => rfl

mutual

/-- An expression has as many errors as uses that stay unbound. -/
theorem length_faults (meaning : String → Option Symbol) : ∀ expr : Expr,
    ((expr.uses false).filterMap (Use.fault? meaning)).length = openUses (expr.bound meaning).visits
  | truth _ _ => rfl
  | id ident => by
    simp only [uses, bound, visits, Use.fault?, filterMap_cons_toList]
    cases meaning ident.name <;> rfl
  | intLit _ _ => rfl
  | strLit _ _ => rfl
  | access base field exposed => by
    rw [uses, bound, visits, List.filterMap_append, faults_uses_true, List.length_append,
      List.length_append, length_faults meaning base, openUses_append, Nat.add_assoc]
    refine congrArg _ ?_
    rw [filterMap_cons_toList, List.filterMap_cons_none rfl, List.filterMap_nil, List.append_nil]
    exact openUses_access meaning base field exposed
  | assign lhs rhs => by
    rw [uses, bound, visits, List.filterMap_append, List.length_append, length_faults meaning lhs,
      length_faults meaning rhs, openUses_append]
  | call callee args => by
    rw [uses, bound, visits, filterMap_cons_toList, List.length_append, openUses_cons,
      length_faultsOfList meaning args]
    refine congrArg (· + _) ?_
    simp only [Use.fault?]
    cases meaning callee.name <;> rfl
  | unary op operand => by rw [uses, bound, visits, length_faults meaning operand]
  | binary op lhs rhs => by
    rw [uses, bound, visits, List.filterMap_append, List.length_append, length_faults meaning lhs,
      length_faults meaning rhs, openUses_append]

theorem length_faultsOfList (meaning : String → Option Symbol) : ∀ exprs : List Expr,
    ((usesOfList exprs).filterMap (Use.fault? meaning)).length =
      openUses (visitsOfList (boundList meaning exprs))
  | [] => rfl
  | expr :: rest => by
    rw [usesOfList, boundList, visitsOfList, List.filterMap_append, List.length_append,
      length_faults meaning expr, length_faultsOfList meaning rest, openUses_append]

end

/-- An expression whose names are bound ends in a bound one. -/
theorem endsUnbound_of_visits (expr : Expr)
    (bound : ∀ visit ∈ expr.visits, visit.isUnboundUse = false) : expr.endsUnbound = false := by
  cases expr with
  | id ident => exact bound _ List.mem_cons_self
  | access base field exposed =>
    exact bound (.ident field .field) (List.mem_append_right _ List.mem_cons_self)
  | _ => rfl

theorem openUses_reference_eq_zero_iff (ident : Ident) :
    openUses [.ident ident .reference] = 0 ↔
      ∀ visit ∈ [Visit.ident ident .reference], visit.isUnboundUse = false := by
  simp [openUses, Visit.isUnboundReference, Visit.isUnboundField, Visit.isUnboundUse,
    Role.isBindable]

mutual

/-- If an expression has an unbound name, one of its uses is counted. -/
theorem openUses_eq_zero_iff : ∀ expr : Expr,
    openUses expr.visits = 0 ↔ ∀ visit ∈ expr.visits, visit.isUnboundUse = false
  | truth _ _ => by simp [visits, openUses]
  | id ident => openUses_reference_eq_zero_iff ident
  | intLit _ _ => by simp [visits, openUses]
  | strLit _ _ => by simp [visits, openUses]
  | access base field exposed => by
    rw [visits, openUses_append, Nat.add_eq_zero_iff, List.forall_mem_append,
      openUses_eq_zero_iff base]
    refine and_congr_right fun boundBase => ?_
    rw [openUses_field, endsUnbound_of_visits base boundBase]
    simp [Visit.isUnboundUse, Role.isBindable]
  | assign lhs rhs => by
    rw [visits, openUses_append, Nat.add_eq_zero_iff, List.forall_mem_append,
      openUses_eq_zero_iff lhs, openUses_eq_zero_iff rhs]
  | call callee args => by
    rw [visits, openUses_cons, Nat.add_eq_zero_iff, List.forall_mem_cons,
      openUsesOfList_eq_zero_iff args]
    exact and_congr_left fun _ =>
      (openUses_reference_eq_zero_iff callee).trans List.forall_mem_singleton
  | unary op operand => by rw [visits, openUses_eq_zero_iff operand]
  | binary op lhs rhs => by
    rw [visits, openUses_append, Nat.add_eq_zero_iff, List.forall_mem_append,
      openUses_eq_zero_iff lhs, openUses_eq_zero_iff rhs]

theorem openUsesOfList_eq_zero_iff : ∀ exprs : List Expr,
    openUses (visitsOfList exprs) = 0 ↔ ∀ visit ∈ visitsOfList exprs, visit.isUnboundUse = false
  | [] => by simp [visitsOfList, openUses]
  | expr :: rest => by
    rw [visitsOfList, openUses_append, Nat.add_eq_zero_iff, List.forall_mem_append,
      openUses_eq_zero_iff expr, openUsesOfList_eq_zero_iff rest]

end

end Expr

/-! ### The errors of a program -/

namespace Spot

/-- Whether this is a name or an access in an expression. -/
def isUse : Spot → Bool
  | use _ _ => true
  | _ => false

theorem isOfUse_of_fault? (spot : Spot) (plain : spot.isUse = false) (diagnostic : Diagnostic)
    (blamed : spot.fault? = some diagnostic) : diagnostic.kind.isOfUse = false := by
  cases spot with
  | resultType around name => cases blamed
  | typeName around name =>
    simp only [fault?, Option.ite_none_left_eq_some] at blamed
    cases blamed.2
    rfl
  | typed before type name =>
    simp only [fault?] at blamed
    split at blamed
    · cases blamed
      rfl
    · cases ((repeated?_eq_some before name diagnostic).mp blamed).2
      rfl
  | definition before name =>
    cases ((repeated?_eq_some before name diagnostic).mp blamed).2
    rfl
  | use around mention => cases plain

theorem openUses_found (spot : Spot) (plain : spot.isUse = false) : openUses [spot.found] = 0 := by
  cases spot with
  | use around mention => cases plain
  | _ => rfl

theorem isUnboundUse_found (spot : Spot) (plain : spot.isUse = false) :
    spot.found.isUnboundUse = false := by
  cases spot with
  | use around mention => cases plain
  | _ => rfl

end Spot

theorem openUses_plain (spots : List Spot) (plain : ∀ spot ∈ spots, spot.isUse = false) :
    openUses (spots.map Spot.found) = 0 := by
  induction spots with
  | nil => rfl
  | cons spot rest inductionHypothesis =>
    rw [List.forall_mem_cons] at plain
    rw [List.map_cons, openUses_cons, spot.openUses_found plain.1, inductionHypothesis plain.2]

namespace Site

/-- Apart from expressions, the parts of a program have no uses. -/
theorem plain_or_expr (site : Site) :
    (∀ spot ∈ site.spots, spot.isUse = false) ∨ ∃ around value, site = expr around value := by
  cases site with
  | result around type => left; cases type <;> simp [spots, TypeName.structName?, Spot.isUse]
  | typed around before type name =>
    left; cases type <;> simp [spots, TypeName.structName?, Spot.isUse]
  | definition before name => left; simp [spots, Spot.isUse]
  | expr around value => exact Or.inr ⟨around, value, rfl⟩

/-- What is met at the site of an expression are the uses of the bound expression. -/
theorem found_expr (around : Surroundings) (value : Expr) :
    (expr around value).spots.map Spot.found = (value.bound around.meaning?).visits := by
  rw [spots, List.map_map, value.visits_bound around.meaning? false]
  rfl

/-- A site has as many errors of uses as uses that stay unbound. -/
theorem use_errors (site : Site) :
    (site.spots.filterMap Spot.fault?).countP (fun diagnostic => diagnostic.kind.isOfUse) =
      openUses (site.spots.map Spot.found) := by
  rcases site.plain_or_expr with plain | ⟨around, value, rfl⟩
  · rw [openUses_plain _ plain, List.countP_eq_zero]
    intro diagnostic member
    obtain ⟨spot, located, blamed⟩ := List.mem_filterMap.mp member
    rw [spot.isOfUse_of_fault? (plain spot located) diagnostic blamed]
    exact Bool.false_ne_true
  · have uses : (expr around value).spots.filterMap Spot.fault? =
        (value.uses false).filterMap (Use.fault? around.meaning?) := by
      rw [spots, List.filterMap_map]
      rfl
    rw [found_expr, ← value.length_faults, uses, List.countP_eq_length]
    intro diagnostic member
    obtain ⟨mention, _, blamed⟩ := List.mem_filterMap.mp member
    exact mention.isOfUse_of_fault? _ diagnostic blamed

theorem openUses_eq_zero_iff (site : Site) :
    openUses (site.spots.map Spot.found) = 0 ↔
      ∀ visit ∈ site.spots.map Spot.found, visit.isUnboundUse = false := by
  rcases site.plain_or_expr with plain | ⟨around, value, rfl⟩
  · refine iff_of_true (openUses_plain _ plain) (List.forall_mem_map.mpr fun spot located => ?_)
    exact spot.isUnboundUse_found (plain spot located)
  · rw [found_expr]
    exact Expr.openUses_eq_zero_iff _

end Site

theorem use_errors_of_sites (sites : List Site) :
    ((sites.flatMap Site.spots).filterMap Spot.fault?).countP
        (fun diagnostic => diagnostic.kind.isOfUse) =
      openUses ((sites.flatMap Site.spots).map Spot.found) := by
  induction sites with
  | nil => rfl
  | cons site rest inductionHypothesis =>
    rw [List.flatMap_cons, List.filterMap_append, List.countP_append, site.use_errors,
      inductionHypothesis, List.map_append, openUses_append]

theorem openUses_of_sites_eq_zero_iff (sites : List Site) :
    openUses ((sites.flatMap Site.spots).map Spot.found) = 0 ↔
      ∀ visit ∈ (sites.flatMap Site.spots).map Spot.found, visit.isUnboundUse = false := by
  induction sites with
  | nil => exact iff_of_true rfl fun _ absent => nomatch absent
  | cons site rest inductionHypothesis =>
    rw [List.flatMap_cons, List.map_append, openUses_append, Nat.add_eq_zero_iff,
      List.forall_mem_append, site.openUses_eq_zero_iff, inductionHypothesis]

namespace Program

theorem unbound_eq_nil_iff (program : Program) :
    program.unbound = [] ↔ ∀ visit ∈ program.visits, visit.isUnboundUse = false := by
  rw [unbound, occurrences, List.map_eq_nil_iff, List.filter_eq_nil_iff]
  constructor
  · intro bound visit member
    cases visit with
    | ident name role =>
      have occurs : (name, role) ∈ program.visits.filterMap Visit.occurrence? :=
        List.mem_filterMap.mpr ⟨Visit.ident name role, member, rfl⟩
      exact Bool.eq_false_iff.mpr (bound (name, role) occurs)
    | access base field exposed => rfl
  · rintro bound ⟨name, role⟩ occurs
    obtain ⟨visit, member, met⟩ := List.mem_filterMap.mp occurs
    cases visit with
    | ident other part => cases met; exact Bool.eq_false_iff.mp (bound _ member)
    | access base field exposed => cases met

/-- Each error of a use stands for one use that stays unbound: for every reference, and for every
field behind a name that does not stay unbound. So nothing stays unbound if there is no such error.
-/
theorem use_errors_counted (program : Program) (fresh : program.IsFresh) :
    program.check.2.entries.countP (fun diagnostic => diagnostic.kind.isOfUse) =
        program.check.1.visits.countP Visit.isUnboundReference +
          program.check.1.visits.countP Visit.isUnboundField ∧
      (program.check.1.unbound = [] ↔
        ∀ diagnostic ∈ program.check.2.entries, diagnostic.kind.isOfUse = false) := by
  have accounts := program.check_accounts fresh
  have counted := use_errors_of_sites program.sites
  rw [← accounts.found, ← accounts.reports] at counted
  refine ⟨counted, ?_⟩
  rw [unbound_eq_nil_iff, accounts.found, ← openUses_of_sites_eq_zero_iff, ← accounts.found,
    ← counted, List.countP_eq_zero]
  simp only [Bool.not_eq_true]

/-- A program with a chain that fails at its head, as the argument of a function that is not
declared. The target is not declared either. -/
def failing : Program := ⟨[
  .var { type := .integer, name := ⟨"n", ⟨1, 5⟩, none⟩ },
  .func ⟨.void, ⟨"f", ⟨2, 6⟩, none⟩, [],
    ⟨[], [.assign (.id ⟨"x", ⟨3, 3⟩, none⟩) (.call ⟨"g", ⟨3, 7⟩, none⟩
      [.access (.access (.id ⟨"n", ⟨3, 9⟩, none⟩) ⟨"a", ⟨3, 11⟩, none⟩ none)
        ⟨"b", ⟨3, 13⟩, none⟩ none])]⟩⟩]⟩

theorem use_errors_counted_failing :
    failing.IsFresh ∧
      failing.check.2.entries.countP (fun diagnostic => diagnostic.kind.isOfUse) = 3 ∧
      failing.check.1.unbound ≠ [] := by
  have fresh : failing.IsFresh := by decide
  have ⟨counted, complete⟩ := failing.use_errors_counted fresh
  refine ⟨fresh, counted.trans rfl, fun bound => ?_⟩
  have none : failing.check.2.entries.countP (fun diagnostic => diagnostic.kind.isOfUse) = 0 :=
    List.countP_eq_zero.mpr fun diagnostic member =>
      Bool.eq_false_iff.mp (complete.mp bound diagnostic member)
  exact absurd (none.symm.trans counted) (by decide)

end Program

end NameBinding
