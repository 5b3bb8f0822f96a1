/-
This file says what the names in types stand for in a program without errors. The name in the type
of a variable, a formal or a field then is that of a struct definition which is visible where it is
written. The return type of a function is looked up nowhere, so nothing is known of the name in it:
all type names of a program without errors are defined just if those in its return types are, and
there is such a program with a return type that was never declared.
-/

import NameBinding.Proofs.BoundNames
import NameBinding.Proofs.DeclarationErrors

namespace NameBinding

/-- Whether a name stands for a struct definition at a place. -/
def Surroundings.DefinesStruct (around : Surroundings) (name : String) : Prop :=
  ∃ struct fields, around.Accepts name (.struct struct fields)

namespace Spot

/-- The name in a type, with the scopes around it, if this is what stands at the place. -/
def typeName? : Spot → Option (Surroundings × Ident)
  | resultType around name => some (around, name)
  | typeName around name => some (around, name)
  | _ => none

/-- A type name is that of a return type, or that of the type of something that is declared. -/
theorem of_given_typeName {spot : Spot} {name : Ident} (met : spot.given = .ident name .typeName) :
    (∃ around, spot = .resultType around name) ∨ ∃ around, spot = .typeName around name := by
  cases spot with
  | resultType around name => cases met; exact Or.inl ⟨around, rfl⟩
  | typeName around name => cases met; exact Or.inr ⟨around, rfl⟩
  | use around mention => cases mention <;> cases met
  | _ => cases met

/-- The type of something that is declared is defined if it is not at fault. -/
theorem definesStruct_of_blameless {around : Surroundings} {name : Ident}
    (blameless : (Spot.typeName around name).fault? = none) : around.DefinesStruct name.name := by
  by_cases defined : ((around.meaning? name.name).bind Symbol.fields?).isSome = true
  · obtain ⟨struct, fields, visible⟩ := (isStruct_meaning? around name.name).mp defined
    exact ⟨struct, fields, Surroundings.accepts_iff.mpr visible⟩
  · rw [fault?, if_neg defined] at blameless
    cases blameless

end Spot

namespace Program

/-- Whether every name in a type of a program stands for a struct definition where it is written. -/
def TypesDefined (program : Program) : Prop :=
  ∀ (index : Nat) (name : Ident), program.visits[index]? = some (.ident name .typeName) →
    ∃ (spot : Spot) (around : Surroundings), program.spots[index]? = some spot ∧
      spot.typeName? = some (around, name) ∧ around.DefinesStruct name.name

/-- Whether every name in a return type of a program stands for a struct definition. -/
def ResultTypesDefined (program : Program) : Prop :=
  ∀ (index : Nat) (around : Surroundings) (name : Ident),
    program.spots[index]? = some (.resultType around name) → around.DefinesStruct name.name

theorem blameless_of_clean (program : Program) (fresh : program.IsFresh)
    (clean : program.check.2.entries = []) {index : Nat} {spot : Spot}
    (located : program.spots[index]? = some spot) : spot.fault? = none := by
  rw [(program.check_accounts fresh).reports] at clean
  exact List.filterMap_eq_nil_iff.mp clean spot (List.mem_of_getElem? located)

/-- No return type is ever blamed. If nothing else is blamed either, the types of all variables,
formals and fields are defined, and so all types are just if the return types are. -/
theorem typesDefined_iff_of_clean (program : Program) (fresh : program.IsFresh) :
    (∀ (index : Nat) (around : Surroundings) (name : Ident),
      program.spots[index]? = some (.resultType around name) →
        program.blames[index]? = some none) ∧
      (program.check.2.entries = [] →
        (∀ (index : Nat) (around : Surroundings) (name : Ident),
          program.spots[index]? = some (.typeName around name) →
            around.DefinesStruct name.name) ∧
        (program.TypesDefined ↔ program.ResultTypesDefined)) := by
  refine ⟨?_, fun clean => ?_⟩
  · intro index around name located
    rw [blames, List.getElem?_map, located]
    rfl
  · have declared : ∀ (index : Nat) (around : Surroundings) (name : Ident),
        program.spots[index]? = some (.typeName around name) →
          around.DefinesStruct name.name := fun index around name located =>
      Spot.definesStruct_of_blameless (program.blameless_of_clean fresh clean located)
    refine ⟨declared, ?_, ?_⟩
    · intro defined index around name located
      have met : program.visits[index]? = some (.ident name .typeName) := by
        have located : (program.sites.flatMap Site.spots)[index]? = _ := located
        rw [(program.check_accounts fresh).given, List.getElem?_map, located]
        rfl
      obtain ⟨spot, around', same, named, found⟩ := defined index name met
      cases located.symm.trans same
      cases named
      exact found
    · intro results index name met
      obtain ⟨spot, located, given, -, -⟩ := program.spot_of_visit fresh index _ met
      rcases Spot.of_given_typeName given with ⟨around, rfl⟩ | ⟨around, rfl⟩
      · exact ⟨_, around, located, rfl, results index around name located⟩
      · exact ⟨_, around, located, rfl, declared index around name located⟩

/-- A program that writes the name of a struct in the type of a formal and in a return type. -/
def naming : Program := ⟨[
  .struct ⟨⟨"T", ⟨1, 8⟩, none⟩, [{ type := .integer, name := ⟨"x", ⟨1, 20⟩, none⟩ }]⟩,
  .func ⟨.struct ⟨"T", ⟨2, 8⟩, none⟩, ⟨"f", ⟨2, 10⟩, none⟩,
    [⟨.struct ⟨"T", ⟨2, 19⟩, none⟩, ⟨"t", ⟨2, 21⟩, none⟩⟩], ⟨[], []⟩⟩]⟩

theorem typesDefined_iff_of_clean_naming :
    naming.IsFresh ∧ naming.check.2.entries = [] ∧ naming.TypesDefined := by
  have fresh : naming.IsFresh := by decide
  have ⟨_, clean⟩ := naming.typesDefined_iff_of_clean fresh
  refine ⟨fresh, rfl, (clean rfl).2.mpr fun index around name located => ?_⟩
  rcases index with _ | _ | _ | _ | _ | _ | index <;> cases located
  exact ⟨_, _, Surroundings.accepts_iff.mpr rfl⟩

/-- A program with a function whose return type was never declared. -/
def dangling : Program := ⟨[
  .func ⟨.struct ⟨"T", ⟨1, 8⟩, none⟩, ⟨"f", ⟨1, 10⟩, none⟩, [], ⟨[], []⟩⟩]⟩

/-- The return type is not reported. -/
theorem not_typesDefined_dangling :
    dangling.IsFresh ∧ dangling.check.2.entries = [] ∧ ¬ dangling.TypesDefined := by
  refine ⟨by decide, rfl, fun defined => ?_⟩
  obtain ⟨spot, around, located, named, struct, fields, accepts⟩ :=
    defined 0 ⟨"T", ⟨1, 8⟩, none⟩ rfl
  cases located
  cases named
  exact nomatch Surroundings.accepts_iff.mp accepts

end Program

end NameBinding
