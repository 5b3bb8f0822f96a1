/-
This file proves that references are resolved by lexical scoping. Where a reference stands, there
are scopes around it, and in each of them some declarations are in force. The reference is bound if
one of the scopes has the declaration in force that it accepts for the name, and then to the symbol
of that declaration in the innermost such scope. Otherwise it stays unbound and is blamed once for
it. The statement goes by place: a program, the program with its names bound and the list of what
each place is blamed for run in parallel, and the naming errors are that list without its gaps.
-/

import NameBinding.Proofs.Accounts

namespace NameBinding

/-! ### Declarations in force -/

namespace Enclosure

/-- A name is visible in a scope if its accepted declaration is in force there. -/
theorem isSome_visible? (scope : Enclosure) (name : String) :
    (scope.visible? name).isSome = scope.isInForce name := by
  rw [visible?]
  cases reached : scope.isInForce name with
  | false => rfl
  | true =>
    rw [isInForce, decide_eq_true_eq] at reached
    have bounded : scope.inForce.length ≤ scope.declarations.length :=
      List.length_append ▸ Nat.le_add_right _ _
    rw [if_pos rfl, accepted?, List.isSome_find?, List.any_eq_true]
    exact List.findIdx_lt_length.mp (Nat.lt_of_lt_of_le reached bounded)

end Enclosure

namespace Surroundings

/-- A name stands for something if one of the scopes has it in force. -/
theorem isSome_meaning? (around : Surroundings) (name : String) :
    (around.meaning? name).isSome = true ↔ ∃ scope ∈ around, scope.isInForce name = true := by
  rw [meaning?, Option.isSome_map, visible?, List.isSome_findSome?, List.any_eq_true]
  simp only [Enclosure.isSome_visible?]

/-! ### References -/

/-- What becomes of a reference by the scopes around it, and what it is blamed for. -/
structure Resolves (around : Surroundings) (ident after : Ident) (blame : Option Diagnostic) :
    Prop where
  /-- The name and the position stay. -/
  same : after = { ident with symbol := after.symbol }
  /-- The reference is bound if a scope has the accepted declaration of its name in force. -/
  bound : after.isBound = true ↔ ∃ scope ∈ around, scope.isInForce ident.name = true
  /-- The symbol is that of the declaration in the innermost such scope. -/
  symbol : after.symbol = (around.visible? ident.name).map Introduction.symbol
  /-- The reference is blamed as undeclared if it stays unbound. -/
  undeclared : blame = some ⟨.undeclared, ident.pos⟩ ↔ after.isBound = false

/-- A reference is resolved, whether an access follows it or not. -/
theorem resolves (around : Surroundings) (ident : Ident) (isBase : Bool) :
    around.Resolves ident { ident with symbol := around.meaning? ident.name }
      ((Use.reference ident isBase).fault? around.meaning?) := by
  refine ⟨rfl, around.isSome_meaning? ident.name, rfl, ?_⟩
  simp only [Use.fault?, Ident.isBound]
  cases around.meaning? ident.name with
  | none => simp
  | some symbol => cases blamed : isBase && (symbol.members? around.meaning?).isNone <;> simp

end Surroundings

/-- A place with a reference is a use of it. -/
theorem Spot.given_reference (spot : Spot) (ident : Ident)
    (met : spot.given = .ident ident .reference) :
    ∃ around isBase, spot = .use around (.reference ident isBase) := by
  cases spot with
  | use around mention =>
    cases mention with
    | reference reference isBase => cases met; exact ⟨around, isBase, rfl⟩
    | member base field isBase => cases met
    | access base field exposed => cases met
  | _ => cases met

namespace Program

/-- Every reference of a program is resolved by the scopes around it, and it is blamed at most
once. -/
theorem references_resolved (program : Program) (fresh : program.IsFresh) :
    program.blames.length = program.visits.length ∧
      program.check.2.entries = program.blames.filterMap id ∧
      (∀ (index : Nat) (diagnostic : Diagnostic),
        program.blames[index]? = some (some diagnostic) →
          ∃ name role, program.visits[index]? = some (.ident name role) ∧
            name.pos = diagnostic.pos) ∧
      ∀ (index : Nat) (ident : Ident), program.visits[index]? = some (.ident ident .reference) →
        ∃ (around : Surroundings) (isBase : Bool) (after : Ident) (blame : Option Diagnostic),
          program.spots[index]? = some (.use around (.reference ident isBase)) ∧
          program.check.1.visits[index]? = some (.ident after .reference) ∧
          program.blames[index]? = some blame ∧
          around.Resolves ident after blame := by
  refine ⟨program.length_blames fresh, program.entries_eq_blames fresh,
    program.pos_of_blame fresh, ?_⟩
  intro index ident met
  obtain ⟨spot, located, given, found, blamed⟩ := program.spot_of_visit fresh index _ met
  obtain ⟨around, isBase, rfl⟩ := spot.given_reference ident given
  exact ⟨around, isBase, _, _, located, found, blamed, around.resolves ident isBase⟩

/-- A program with a void formal, which hides nothing, and a loop with a variable that hides the
other formal. The last argument is not declared. -/
def shadowing : Program := ⟨[
  .var { type := .integer, name := ⟨"a", ⟨1, 5⟩, none⟩ },
  .func ⟨.void, ⟨"f", ⟨2, 6⟩, none⟩,
    [⟨.void, ⟨"a", ⟨2, 13⟩, none⟩⟩, ⟨.boolean, ⟨"b", ⟨2, 21⟩, none⟩⟩],
    ⟨[], [
      .whileDo (.id ⟨"b", ⟨3, 10⟩, none⟩)
        ⟨[.var { type := .integer, name := ⟨"b", ⟨4, 9⟩, none⟩ }],
          [.assign (.id ⟨"b", ⟨5, 5⟩, none⟩) (.id ⟨"a", ⟨5, 9⟩, none⟩)]⟩,
      .call ⟨"f", ⟨6, 3⟩, none⟩ [.id ⟨"c", ⟨6, 5⟩, none⟩]]⟩⟩]⟩

theorem references_resolved_shadowing :
    shadowing.IsFresh ∧
      (∃ after : Ident, shadowing.check.1.visits[6]? = some (.ident after .reference) ∧
        after.symbol = some (.plain "integer")) ∧
      ∃ after : Ident, shadowing.check.1.visits[9]? = some (.ident after .reference) ∧
        shadowing.blames[9]? = some (some ⟨.undeclared, ⟨6, 5⟩⟩) := by
  have fresh : shadowing.IsFresh := by decide
  have ⟨_, _, _, resolved⟩ := shadowing.references_resolved fresh
  refine ⟨fresh, ?_, ?_⟩
  · obtain ⟨around, isBase, after, blame, located, found, _, resolves⟩ :=
      resolved 6 ⟨"b", ⟨5, 5⟩, none⟩ rfl
    cases located
    exact ⟨after, found, resolves.symbol⟩
  · obtain ⟨around, isBase, after, blame, located, found, blamed, resolves⟩ :=
      resolved 9 ⟨"c", ⟨6, 5⟩, none⟩ rfl
    cases located
    have unbound : after.isBound = false := by
      rw [Ident.isBound, resolves.symbol]
      rfl
    exact ⟨after, found, blamed.trans (congrArg some (resolves.undeclared.mpr unbound))⟩

end Program

end NameBinding
