/-
This file proves that a function symbol on a tree is complete, whenever and wherever it is looked
at. A function is declared before its parameters are known, but nothing is bound until they are
attached, so a reference that is bound to a function is bound to one with all its parameters: in the
body of the function itself, in functions inside it, and in the body of a later function of the same
name, which is refused. The parameters are those of the declaration that the scope accepted, void
ones and repeated ones included, and no list of parameters is attached twice.
-/

import NameBinding.Proofs.Bindings
import NameBinding.Proofs.BoundNames

namespace NameBinding

/-- Whether a signature is all that a function was declared with: the descriptor of its return type,
and attached to it those of the types of all its formals, in their order. -/
structure Signature.IsComplete (signature : Signature) (ret : TypeName) (formals : List Formal) :
    Prop where
  attached : signature.isAttached = true
  returns : signature.returns = ret.descriptor
  params : signature.paramTypes = formals.map fun formal => formal.type.descriptor

theorem isComplete_signatureOf (ret : TypeName) (formals : List Formal) :
    (signatureOf ret formals).IsComplete ret formals := ⟨rfl, rfl, rfl⟩

namespace Surroundings

/-- Whether a name stands for a function at a place whose declaration has this signature. -/
def Signs (around : Surroundings) (name : String) (signature : Signature) : Prop :=
  ∃ ret ident formals, around.Accepts name (.function ret ident formals) ∧
    signature.IsComplete ret formals

theorem signs_of_meaning? {around : Surroundings} {name : String} {signature : Signature}
    (meant : around.meaning? name = some (.function signature)) : around.Signs name signature := by
  obtain ⟨introduction, visible, symbol⟩ := Option.map_eq_some_iff.mp meant
  obtain ⟨ret, ident, formals, rfl, rfl⟩ := Introduction.function_of_symbol symbol
  exact ⟨ret, ident, formals, accepts_iff.mpr visible, isComplete_signatureOf ret formals⟩

end Surroundings

namespace Program

/-- What happens in the analysis of a program is that it is taken up, and then its declarations. -/
theorem analyze_bindsAs (program : Program) (fresh : program.IsFresh) :
    BindsAs program.analyze.trace program.check.1.visits := by
  have declared := Decl.analyzeList_bindsAs .new program.decls fresh
  have taken : Trace.IsAside [.programEntered program.decls.length] := .single rfl
  have whole := declared.between taken .nil
  rwa [List.append_assoc] at whole

/-- A field of a struct is never a function. -/
theorem field_ne_function {around : Surroundings} {base : Expr} {field : Ident}
    {signature : Signature} :
    (Expr.access base field none).denoted? around.meaning? ≠ some (.function signature) := by
  intro bound
  obtain ⟨members, given, found⟩ := Option.bind_eq_some_iff.mp bound
  obtain ⟨-, type, name, fields, -, rfl⟩ := Expr.exposes_of_members? given
  rw [fieldTable_find?, Option.map_eq_some_iff] at found
  obtain ⟨decl, -, declared⟩ := found
  cases typed : decl.type <;> rw [typed] at declared <;> exact nomatch declared

/-- Every function symbol that an analysis binds a reference to has its parameters from that moment
on, and they are those of the declaration that the name of the reference stands for. No parameters
are attached to a function that has some. -/
theorem function_symbols_complete (program : Program) (fresh : program.IsFresh) :
    program.analyze.trace.refusals = [] ∧
      program.analyze.trace.bindings =
        program.check.1.visits.filterMap Visit.boundReference? ∧
      (∀ (index : Nat) (after : Ident) (signature : Signature),
        program.check.1.visits[index]? = some (.ident after .reference) →
          after.symbol = some (.function signature) →
            ∃ (around : Surroundings) (ident : Ident) (isBase : Bool),
              program.spots[index]? = some (.use around (.reference ident isBase)) ∧
              after = { ident with symbol := some (.function signature) } ∧
              around.Signs after.name signature) ∧
      (∀ (index : Nat) (after : Ident) (signature : Signature),
        program.check.1.visits[index]? = some (.ident after .field) →
          after.symbol ≠ some (.function signature)) ∧
      ∀ (index : Nat) (base : Expr) (field : Ident) (signature : Signature),
        program.check.1.visits[index]? =
            some (.access base field (some (.function signature))) →
          ∃ (around : Surroundings) (mention : Use) (type : String),
            program.spots[index]? = some (.use around mention) ∧
            field.symbol = some (.structInstance type) ∧ around.Signs type signature := by
  have binds := program.analyze_bindsAs fresh
  refine ⟨binds.attached, binds.bindings, ?_, ?_, ?_⟩
  · intro index after signature met bound
    obtain ⟨around, ident, isBase, located, same⟩ := program.spot_of_reference fresh met
    have named : after.name = ident.name := by rw [same]
    refine ⟨around, ident, isBase, located, by rw [← bound, same], ?_⟩
    rw [same] at bound
    exact named ▸ Surroundings.signs_of_meaning? bound
  · intro index after signature met bound
    obtain ⟨around, base, field, isBase, -, same⟩ := program.spot_of_field fresh met
    rw [same] at bound
    exact field_ne_function bound
  · intro index base field signature met
    obtain ⟨around, mention, type, located, typed, meant⟩ := program.spot_of_access fresh met
    exact ⟨around, mention, type, located, typed, Surroundings.signs_of_meaning? meant⟩

/-- A function with a void formal and a repeated one, that is called in its own body, in a function
inside it, and in a later function of the same name. -/
def recursing : Program := ⟨[
  .func ⟨.integer, ⟨"f", ⟨1, 9⟩, none⟩,
    [⟨.void, ⟨"a", ⟨1, 16⟩, none⟩⟩, ⟨.integer, ⟨"b", ⟨1, 27⟩, none⟩⟩,
      ⟨.boolean, ⟨"b", ⟨1, 38⟩, none⟩⟩],
    ⟨[.func ⟨.void, ⟨"g", ⟨2, 8⟩, none⟩, [], ⟨[], [.call ⟨"f", ⟨3, 5⟩, none⟩ []]⟩⟩],
      [.call ⟨"f", ⟨4, 3⟩, none⟩ []]⟩⟩,
  .func ⟨.boolean, ⟨"f", ⟨6, 9⟩, none⟩, [], ⟨[], [.call ⟨"f", ⟨7, 3⟩, none⟩ []]⟩⟩]⟩

theorem function_symbols_complete_recursing :
    recursing.IsFresh ∧ recursing.analyze.trace.refusals = [] ∧
      ∀ index ∈ [5, 6, 8], ∃ (after : Ident) (around : Surroundings),
        recursing.check.1.visits[index]? = some (.ident after .reference) ∧
          around.Signs after.name ⟨"integer", some ["void", "integer", "boolean"]⟩ := by
  have fresh : recursing.IsFresh := by decide
  have ⟨attached, _, calls, _, _⟩ := recursing.function_symbols_complete fresh
  have called : ∀ (index : Nat) (after : Ident),
      recursing.check.1.visits[index]? = some (.ident after .reference) →
      after.symbol = some (.function ⟨"integer", some ["void", "integer", "boolean"]⟩) →
        ∃ (after : Ident) (around : Surroundings),
          recursing.check.1.visits[index]? = some (.ident after .reference) ∧
            around.Signs after.name ⟨"integer", some ["void", "integer", "boolean"]⟩ := by
    intro index after met bound
    obtain ⟨around, _, _, -, -, signs⟩ := calls index after _ met bound
    exact ⟨after, around, met, signs⟩
  refine ⟨fresh, attached, ?_⟩
  simp only [List.forall_mem_cons, List.not_mem_nil, false_imp_iff, implies_true, and_true]
  exact ⟨called 5 _ rfl rfl, called 6 _ rfl rfl, called 8 _ rfl rfl⟩

end Program

end NameBinding
