/-
This file proves which declarations are at fault. A void variable, formal or field is blamed for
being void and for nothing else. Any other declaration is blamed for its name if a declaration
before it in the same scope introduced that name, and in addition for its type if that is a struct
type which is not visible as one from the scopes around. A scope keeps the first declaration of
each name, whatever else is declared in it later, and a function has one scope for its formals and
the declarations of its body.
-/

import NameBinding.Proofs.Accounts

namespace NameBinding

open Declarable (acceptAll)

/-! ### The blame of a declaration -/

namespace Spot

/-- The errors of declarations, and the places that are blamed for them. -/
inductive IsBlamed : Spot → Diagnostic → Prop
  /-- A variable, a formal or a field is void. -/
  | void (before : List Introduction) (name : Ident) :
      IsBlamed (.typed before .void name) ⟨.nonFunctionVoid, name.pos⟩
  /-- The name of another variable, formal or field was introduced before. -/
  | again (before : List Introduction) (type : TypeName) (name : Ident) (earlier : Introduction)
      (solid : type.isVoid = false) (member : earlier ∈ before)
      (introduced : earlier.introduces name.name = true) :
      IsBlamed (.typed before type name) ⟨.multiplyDeclared, name.pos⟩
  /-- The name of a function or a struct was introduced before. -/
  | defined (before : List Introduction) (name : Ident) (earlier : Introduction)
      (member : earlier ∈ before) (introduced : earlier.introduces name.name = true) :
      IsBlamed (.definition before name) ⟨.multiplyDeclared, name.pos⟩
  /-- The name in the type of a variable, a formal or a field is not visible as that of a struct. -/
  | mistyped (around : Surroundings) (name : Ident)
      (unknown : ∀ structName fields,
        around.visible? name.name ≠ some (.struct structName fields)) :
      IsBlamed (.typeName around name) ⟨.invalidStructType, name.pos⟩

/-- A name stands for a struct type if it is visible by the declaration of one. -/
theorem isStruct_meaning? (around : Surroundings) (name : String) :
    ((around.meaning? name).bind Symbol.fields?).isSome = true ↔
      ∃ structName fields, around.visible? name = some (.struct structName fields) := by
  rw [Surroundings.meaning?]
  cases around.visible? name with
  | none => simp
  | some introduction =>
    cases introduction with
    | typed type typed => cases type <;> simp [Introduction.symbol, TypeName.symbol, Symbol.fields?]
    | function ret function formals => simp [Introduction.symbol, Symbol.fields?]
    | struct structName fields => simp [Introduction.symbol, Symbol.fields?]

/-- A place outside of expressions is blamed for its error. -/
theorem isBlamed_iff (spot : Spot) (diagnostic : Diagnostic) :
    spot.IsBlamed diagnostic ↔
      spot.fault? = some diagnostic ∧ diagnostic.kind.isOfUse = false := by
  constructor
  · intro blamed
    cases blamed with
    | void before name => exact ⟨rfl, rfl⟩
    | again before type name earlier solid member introduced =>
      refine ⟨?_, rfl⟩
      rw [fault?, if_neg (Bool.eq_false_iff.mp solid), repeated?_eq_some]
      exact ⟨⟨earlier, member, introduced⟩, rfl⟩
    | defined before name earlier member introduced =>
      exact ⟨(repeated?_eq_some _ _ _).mpr ⟨⟨earlier, member, introduced⟩, rfl⟩, rfl⟩
    | mistyped around name unknown =>
      refine ⟨if_neg fun visible => ?_, rfl⟩
      obtain ⟨structName, fields, found⟩ := (isStruct_meaning? around name.name).mp visible
      exact unknown structName fields found
  · rintro ⟨blamed, declared⟩
    cases spot with
    | resultType around name => cases blamed
    | typeName around name =>
      rw [fault?, Option.ite_none_left_eq_some] at blamed
      obtain ⟨hidden, same⟩ := blamed
      cases same
      refine .mistyped around name fun structName fields found => hidden ?_
      exact (isStruct_meaning? around name.name).mpr ⟨structName, fields, found⟩
    | typed before type name =>
      by_cases void : type.isVoid = true
      · rw [fault?, if_pos void] at blamed
        cases blamed
        obtain rfl : type = .void := by cases type <;> first | rfl | cases void
        exact .void before name
      · rw [fault?, if_neg void, repeated?_eq_some] at blamed
        obtain ⟨⟨earlier, member, introduced⟩, rfl⟩ := blamed
        exact .again before type name earlier (Bool.eq_false_iff.mpr void) member introduced
    | definition before name =>
      obtain ⟨⟨earlier, member, introduced⟩, rfl⟩ := (repeated?_eq_some _ _ _).mp blamed
      exact .defined before name earlier member introduced
    | use around mention =>
      rw [mention.isOfUse_of_fault? _ diagnostic blamed] at declared
      cases declared

end Spot

/-! ### The first declaration is kept -/

/-- What happens in the scope of a function: its formals are declared, then its body is analysed. -/
def analyzeScope (formals : List Formal) (body : Block) : Analysis Block := do
  Formal.declareList formals
  body.analyze

/-- The analysis of a function takes these steps between opening a scope and closing it. That the
types of the formals are attached in between can be left out if the function is declared with them.
-/
theorem Function.analyze_eq_analyzeScope (ret : TypeName) (name : Ident) (formals : List Formal)
    (body : Block) :
    Function.analyze ⟨ret, name, formals, body⟩ = (do
      declareDefinition name (.function (signatureOf ret formals))
        (some (.declaredFunction name.name))
      enterScope
      let body ← analyzeScope formals body
      leaveScope
      return ⟨ret, name, formals, body⟩) := by
  refine StateT.ext fun table => ?_
  rw [Function.analyze_eq]
  simp only [analyzeScope, StateT.run_bind, Traced.bind_assoc]

theorem acceptAll_push (table : SymbolTable) (introductions : List Introduction) :
    acceptAll table.push (bindingsOf introductions) =
      ⟨Scope.ofBindings (bindingsOf introductions) :: table.scopes⟩ := by
  rw [SymbolTable.push, SymbolTable.acceptAll_cons]
  exact congrArg (fun scope : Scope Symbol => SymbolTable.mk (scope :: table.scopes))
    (Scope.acceptAll_ofBindings [] _)

/-- The scope of a function holds what its formals and the declarations of its body introduce. -/
theorem analyzeScope_after (table : SymbolTable) (formals : List Formal) (body : Block) :
    ((analyzeScope formals body).run table.push).value.2 =
      ⟨Scope.ofBindings (bindingsOf (formals.map Formal.introduction ++
        body.decls.map Decl.introduction)) :: table.scopes⟩ := by
  rw [analyzeScope, run_bind_value, body.analyze_after, Formal.declareList_after,
    ← Declarable.acceptAll_append, ← bindingsOf_append, acceptAll_push]

/-- In a scope that was filled from declarations, a name stands for the first one that introduces
it. -/
theorem findLocal_filled (introductions : List Introduction) (outer : List (Scope Symbol))
    (name : String) :
    SymbolTable.findLocal ⟨Scope.ofBindings (bindingsOf introductions) :: outer⟩ name =
      .ok ((introductions.find? (Introduction.introduces name)).map Introduction.symbol) := by
  rw [← lookup_bindingsOf, ← Scope.find?_ofBindings]
  rfl

namespace Program

/-- Every place is blamed for the errors of the declaration that it is part of, and for no others.
The first declaration of a name is the one that its scope keeps. -/
theorem declaration_errors_exact (program : Program) (fresh : program.IsFresh) :
    program.visits = program.spots.map Spot.given ∧
      program.check.2.entries = program.blames.filterMap id ∧
      (∀ (index : Nat) (diagnostic : Diagnostic), diagnostic.kind.isOfUse = false →
        (program.blames[index]? = some (some diagnostic) ↔
          ∃ spot, program.spots[index]? = some spot ∧ spot.IsBlamed diagnostic)) ∧
      (∀ name : String,
        ((Decl.analyzeList program.decls).run SymbolTable.new).value.2.findLocal name =
          .ok (((program.decls.map Decl.introduction).find? (Introduction.introduces name)).map
            Introduction.symbol)) ∧
      (∀ (table : SymbolTable) (formals : List Formal) (body : Block) (name : String),
        ((analyzeScope formals body).run table.push).value.2.findLocal name =
          .ok (((formals.map Formal.introduction ++ body.decls.map Decl.introduction).find?
            (Introduction.introduces name)).map Introduction.symbol)) ∧
      ∀ (table : SymbolTable) (fields : List VarDecl) (name : String),
        Scope.find? ((declareFields (σ := FieldTable) table fields).run Scope.empty).value.2 name =
          ((fields.map VarDecl.introduction).find? (Introduction.introduces name)).map
            Introduction.symbol := by
  refine ⟨(program.check_accounts fresh).given, program.entries_eq_blames fresh, ?_, ?_, ?_, ?_⟩
  · intro index diagnostic declared
    rw [blames, List.getElem?_map, Option.map_eq_some_iff]
    simp only [Spot.isBlamed_iff, declared, and_true]
  · intro name
    rw [Decl.analyzeList_after]
    exact (congrArg (fun table => table.findLocal name) (acceptAll_push .empty _)).trans
      (findLocal_filled _ [] name)
  · intro table formals body name
    rw [analyzeScope_after, findLocal_filled]
  · intro table fields name
    rw [declareFields_empty, fieldTable_eq, Scope.find?_ofBindings, lookup_bindingsOf]

/-- A variable, one of the same name with the name of no struct as its type, and a void one. -/
def redeclaring : Program := ⟨[
  .var { type := .integer, name := ⟨"x", ⟨1, 5⟩, none⟩ },
  .var { type := .struct ⟨"T", ⟨2, 8⟩, none⟩, name := ⟨"x", ⟨2, 10⟩, none⟩ },
  .var { type := .void, name := ⟨"x", ⟨3, 6⟩, none⟩ }]⟩

theorem declaration_errors_exact_redeclaring :
    redeclaring.IsFresh ∧
      redeclaring.blames[1]? = some (some ⟨.invalidStructType, ⟨2, 8⟩⟩) ∧
      redeclaring.blames[2]? = some (some ⟨.multiplyDeclared, ⟨2, 10⟩⟩) ∧
      redeclaring.blames[3]? = some (some ⟨.nonFunctionVoid, ⟨3, 6⟩⟩) := by
  have fresh : redeclaring.IsFresh := by decide
  have ⟨_, _, blamed, _⟩ := redeclaring.declaration_errors_exact fresh
  refine ⟨fresh, (blamed 1 _ rfl).mpr ⟨_, rfl, .mistyped _ ⟨"T", ⟨2, 8⟩, none⟩ ?_⟩,
    (blamed 2 _ rfl).mpr ⟨_, rfl, .again _ _ ⟨"x", ⟨2, 10⟩, none⟩ _ rfl List.mem_cons_self rfl⟩,
    (blamed 3 _ rfl).mpr ⟨_, rfl, .void _ ⟨"x", ⟨3, 6⟩, none⟩⟩⟩
  intro structName fields found
  cases found

end Program

end NameBinding
