/-
This file says which symbols stand on a tree after an analysis. Without its symbols the tree is the
one that was given, and so is the text that is written for it. Names in declarations and in types
are never bound. A reference that is bound has the symbol of a declaration of its name that is in
force in a scope around it. A field that is bound has the symbol of a field of its name in the
struct definition that the base of the access exposes, and an access exposes something itself only
if its field is a value of a struct type.
-/

import NameBinding.Proofs.Annotation
import NameBinding.Proofs.Scoping
import NameBinding.Proofs.StructTypes
import NameBinding.Proofs.Unannotated
import NameBinding.Tree.Text

namespace NameBinding

/-! ### Symbols and what introduces them -/

namespace Symbol

theorem structName?_eq_some {symbol : Symbol} {type : String}
    (named : symbol.structName? = some type) : symbol = .structInstance type := by
  cases symbol with
  | structInstance structName => exact congrArg structInstance (Option.some.inj named)
  | _ => exact nomatch named

theorem fields?_eq_some {symbol : Symbol} {fields : FieldTable}
    (given : symbol.fields? = some fields) : symbol = .structDefinition fields := by
  cases symbol with
  | structDefinition own => exact congrArg structDefinition (Option.some.inj given)
  | _ => exact nomatch given

end Symbol

namespace Introduction

/-- Only a struct introduces a struct definition. -/
theorem struct_of_symbol {introduction : Introduction} {members : FieldTable}
    (given : introduction.symbol = .structDefinition members) :
    ∃ name fields, introduction = .struct name fields ∧ members = fieldTable fields := by
  cases introduction with
  | struct name fields => exact ⟨name, fields, rfl, (Symbol.structDefinition.inj given).symm⟩
  | typed type name => cases type <;> exact nomatch given
  | function ret name formals => exact nomatch given

/-- Only a function introduces a function symbol. -/
theorem function_of_symbol {introduction : Introduction} {signature : Signature}
    (given : introduction.symbol = .function signature) :
    ∃ ret name formals, introduction = .function ret name formals ∧
      signature = signatureOf ret formals := by
  cases introduction with
  | function ret name formals => exact ⟨ret, name, formals, rfl, (Symbol.function.inj given).symm⟩
  | typed type name => cases type <;> exact nomatch given
  | struct name fields => exact nomatch given

end Introduction

/-! ### Where a symbol was declared -/

namespace Surroundings

/-- Whether a name stands for a declaration at a place. It is the first one that introduces the name
in its scope, it is in force there, and no scope further inside has one in force. -/
def Accepts (around : Surroundings) (name : String) (introduction : Introduction) : Prop :=
  ∃ (inner : Surroundings) (scope : Enclosure) (outer : Surroundings),
    around = inner ++ scope :: outer ∧
      (∀ nearer ∈ inner, nearer.isInForce name = false) ∧
      scope.isInForce name = true ∧ scope.accepted? name = some introduction

theorem accepts_iff {around : Surroundings} {name : String} {introduction : Introduction} :
    around.Accepts name introduction ↔ around.visible? name = some introduction := by
  have hidden : ∀ scope : Enclosure, scope.visible? name = none ↔ scope.isInForce name = false := by
    intro scope
    rw [← scope.isSome_visible? name, Option.isSome_eq_false_iff, Option.isNone_iff_eq_none]
  have shown : ∀ scope : Enclosure, scope.visible? name = some introduction ↔
      scope.isInForce name = true ∧ scope.accepted? name = some introduction := by
    intro scope
    rw [Enclosure.visible?, Option.ite_none_right_eq_some]
  rw [visible?, List.findSome?_eq_some_iff]
  simp only [hidden, shown]
  constructor
  · rintro ⟨inner, scope, outer, split, nearer, found⟩
    exact ⟨inner, scope, outer, split, found, nearer⟩
  · rintro ⟨inner, scope, outer, split, found, nearer⟩
    exact ⟨inner, scope, outer, split, nearer, found⟩

/-- What a name stands for was declared under this name. -/
theorem Accepts.introduces {around : Surroundings} {name : String} {introduction : Introduction}
    (accepts : around.Accepts name introduction) : introduction.introduces name = true := by
  obtain ⟨inner, scope, outer, -, -, -, accepted⟩ := accepts
  exact List.find?_some accepted

end Surroundings

namespace Expr

/-- Whether an expression whose names are bound hands the fields of a struct definition to an
access. A name does so by the struct type that it is a value of, and an access by what it exposes.
-/
inductive Exposes (around : Surroundings) : Expr → FieldTable → Prop
  | id (ident : Ident) (type : String) (fields : FieldTable)
      (typed : ident.symbol = some (.structInstance type))
      (named : around.meaning? type = some (.structDefinition fields)) :
      Exposes around (.id ident) fields
  | access (base : Expr) (field : Ident) (fields : FieldTable) :
      Exposes around (.access base field (some (.structDefinition fields))) fields

/-- What an expression exposes is what the name of its struct type stands for. -/
theorem exposed?_eq_some {meaning : String → Option Symbol} {expr : Expr} {symbol : Symbol}
    (given : expr.exposed? meaning = some symbol) :
    ∃ type, expr.denoted? meaning = some (.structInstance type) ∧ meaning type = some symbol := by
  obtain ⟨denoted, found, exposes⟩ := Option.bind_eq_some_iff.mp given
  obtain ⟨type, named, meant⟩ := Option.bind_eq_some_iff.mp exposes
  cases Symbol.structName?_eq_some named
  exact ⟨type, found, meant⟩

/-- The fields that a base gives are those of a struct that is visible where the access is. -/
theorem exposes_of_members? {around : Surroundings} {base : Expr} {members : FieldTable}
    (given : base.members? around.meaning? = some members) :
    (base.bound around.meaning?).Exposes around members ∧
      ∃ type name fields, around.Accepts type (.struct name fields) ∧
        members = fieldTable fields := by
  rw [members?_eq] at given
  obtain ⟨definition, exposed, own⟩ := Option.bind_eq_some_iff.mp given
  cases Symbol.fields?_eq_some own
  obtain ⟨type, denoted, meant⟩ := exposed?_eq_some exposed
  refine ⟨?_, ?_⟩
  · cases base with
    | id ident => exact .id _ type members denoted meant
    | access base field exposed' =>
      rw [bound, exposed]
      exact .access _ _ members
    | _ => exact nomatch denoted
  · obtain ⟨introduction, visible, symbol⟩ := Option.map_eq_some_iff.mp meant
    obtain ⟨name, fields, rfl, same⟩ := Introduction.struct_of_symbol symbol
    exact ⟨type, name, fields, Surroundings.accepts_iff.mpr visible, same⟩

end Expr

/-! ### What stands at a place -/

namespace Program

/-- At every place of an analysed program there is what its spot says. -/
theorem spot_of_found (program : Program) (fresh : program.IsFresh) {index : Nat} {visit : Visit}
    (met : program.check.1.visits[index]? = some visit) :
    ∃ spot, program.spots[index]? = some spot ∧ spot.found = visit := by
  rw [(program.check_accounts fresh).found, List.getElem?_map, Option.map_eq_some_iff] at met
  exact met

/-- A reference in an analysed program has what its name stands for. -/
theorem spot_of_reference (program : Program) (fresh : program.IsFresh) {index : Nat}
    {after : Ident} (met : program.check.1.visits[index]? = some (.ident after .reference)) :
    ∃ around ident isBase,
      program.spots[index]? = some (.use around (.reference ident isBase)) ∧
        after = { ident with symbol := around.meaning? ident.name } := by
  obtain ⟨spot, located, found⟩ := program.spot_of_found fresh met
  cases spot with
  | use around mention =>
    cases mention with
    | reference ident isBase => cases found; exact ⟨around, ident, isBase, located, rfl⟩
    | member base field isBase => cases found
    | access base field exposed => cases found
  | _ => cases found

/-- A field in an analysed program has what the access denotes. -/
theorem spot_of_field (program : Program) (fresh : program.IsFresh) {index : Nat} {after : Ident}
    (met : program.check.1.visits[index]? = some (.ident after .field)) :
    ∃ around base field isBase,
      program.spots[index]? = some (.use around (.member base field isBase)) ∧
        after = { field with
          symbol := (Expr.access base field none).denoted? around.meaning? } := by
  obtain ⟨spot, located, found⟩ := program.spot_of_found fresh met
  cases spot with
  | use around mention =>
    cases mention with
    | reference ident isBase => cases found
    | member base field isBase => cases found; exact ⟨around, base, field, isBase, located, rfl⟩
    | access base field exposed => cases found
  | _ => cases found

/-- An access in an analysed program that exposes something has a field of a struct type, and
exposes what the name of this type stands for. -/
theorem spot_of_access (program : Program) (fresh : program.IsFresh) {index : Nat} {base : Expr}
    {after : Ident} {symbol : Symbol}
    (met : program.check.1.visits[index]? = some (.access base after (some symbol))) :
    ∃ around mention type, program.spots[index]? = some (.use around mention) ∧
      after.symbol = some (.structInstance type) ∧ around.meaning? type = some symbol := by
  obtain ⟨spot, located, found⟩ := program.spot_of_found fresh met
  cases spot with
  | use around mention =>
    cases mention with
    | reference ident isBase => cases found
    | member inner field isBase => cases found
    | access inner field given =>
      obtain ⟨-, named, exposed⟩ := Visit.access.inj found
      obtain ⟨type, typed, meant⟩ := Expr.exposed?_eq_some exposed
      exact ⟨around, _, type, located, named ▸ typed, meant⟩
  | _ => cases found

/-- A name in a declaration or in a type is left as it is. -/
theorem visit_of_not_isBindable (program : Program) (fresh : program.IsFresh) {index : Nat}
    {ident : Ident} {role : Role} (met : program.check.1.visits[index]? = some (.ident ident role))
    (plain : role.isBindable = false) : .ident ident role ∈ program.visits := by
  obtain ⟨spot, located, found⟩ := program.spot_of_found fresh met
  have given : spot.given = .ident ident role := by
    cases spot with
    | use around mention =>
      cases mention with
      | access inner field given => cases found
      | _ => cases found; cases plain
    | _ => exact found
  rw [(program.check_accounts fresh).given, ← given]
  exact List.mem_map_of_mem (List.mem_of_getElem? located)

/-- The text that is written for a program has no symbols in it. -/
theorem text_withoutSymbols (program : Program) : program.withoutSymbols.text = program.text :=
  congrArg Json.text (toJson_of_ofJson? program.ofJson?_toJson)

end Program

/-! ### Bound names -/

namespace Program

/-- Whether the field of an access is bound to a symbol that was declared under its name among the
fields of the struct definition that the base of the access exposes. -/
def SelectsFrom (program : Program) (around : Surroundings) (base : Expr) (after : Ident)
    (symbol : Symbol) : Prop :=
  (∃ exposed, .access base after exposed ∈ program.check.1.visits) ∧
    ∃ (type : String) (name : Ident) (fields : List VarDecl),
      around.Accepts type (.struct name fields) ∧
        base.Exposes around (fieldTable fields) ∧
        (fieldTable fields).find? after.name = some symbol ∧
        ∃ decl ∈ fields, decl.introduction.introduces after.name = true ∧
          decl.introduction.symbol = symbol

theorem selectsFrom_of_spot (program : Program) (fresh : program.IsFresh) {around : Surroundings}
    {base : Expr} {field after : Ident} {isBase : Bool} {symbol : Symbol}
    (located : .use around (.member base field isBase) ∈ program.spots)
    (same : after = { field with
      symbol := (Expr.access base field none).denoted? around.meaning? })
    (bound : after.symbol = some symbol) :
    program.SelectsFrom around (base.bound around.meaning?) after symbol := by
  refine ⟨?_, ?_⟩
  · obtain ⟨exposed, all⟩ := program.spots_of_member located
    refine ⟨(Expr.access base field exposed).exposed? around.meaning?, ?_⟩
    rw [(program.check_accounts fresh).found, same]
    refine List.mem_map.mpr ⟨.use around (.access base field exposed), all _ ?_, rfl⟩
    rw [Expr.uses]
    exact List.mem_append_right _ (List.mem_cons_of_mem _ List.mem_cons_self)
  · rw [same] at bound
    obtain ⟨members, given, found⟩ := Option.bind_eq_some_iff.mp bound
    obtain ⟨exposes, type, name, fields, accepts, rfl⟩ := Expr.exposes_of_members? given
    have named : after.name = field.name := by rw [same]
    rw [← named] at found
    refine ⟨type, name, fields, accepts, exposes, found, ?_⟩
    rw [fieldTable_find?, Option.map_eq_some_iff] at found
    obtain ⟨decl, first, declared⟩ := found
    have introduced := List.find?_some first
    exact ⟨decl, List.mem_of_find?_eq_some first, introduced, declared⟩

/-- An analysis writes symbols and nothing else, on uses of names and nowhere else, and what it
writes was declared under the name that it is written on. -/
theorem only_uses_annotated (program : Program) (fresh : program.IsFresh) :
    program.check.1.withoutSymbols = program ∧
      program.check.1.text = program.text ∧
      (∀ (index : Nat) (ident : Ident) (role : Role),
        program.check.1.visits[index]? = some (.ident ident role) → role.isBindable = false →
          ident.isBound = false) ∧
      (∀ (index : Nat) (after : Ident) (symbol : Symbol),
        program.check.1.visits[index]? = some (.ident after .reference) →
          after.symbol = some symbol →
            ∃ (around : Surroundings) (ident : Ident) (isBase : Bool) (introduction : Introduction),
              program.spots[index]? = some (.use around (.reference ident isBase)) ∧
              after = { ident with symbol := some symbol } ∧
              around.Accepts after.name introduction ∧
              introduction.introduces after.name = true ∧ introduction.symbol = symbol) ∧
      (∀ (index : Nat) (after : Ident) (symbol : Symbol),
        program.check.1.visits[index]? = some (.ident after .field) →
          after.symbol = some symbol →
            ∃ (around : Surroundings) (base : Expr) (field : Ident) (isBase : Bool),
              program.spots[index]? = some (.use around (.member base field isBase)) ∧
              after = { field with symbol := some symbol } ∧
              program.SelectsFrom around (base.bound around.meaning?) after symbol) ∧
      ∀ (index : Nat) (base : Expr) (field : Ident) (symbol : Symbol),
        program.check.1.visits[index]? = some (.access base field (some symbol)) →
          ∃ type, field.symbol = some (.structInstance type) := by
  have erased : program.check.1.withoutSymbols = program :=
    program.check_withoutSymbols.trans (program.withoutSymbols_of_fresh fresh)
  refine ⟨erased, ?_, ?_, ?_, ?_, ?_⟩
  · rw [← program.check.1.text_withoutSymbols, erased]
  · intro index ident role met plain
    have given := program.visit_of_not_isBindable fresh met plain
    exact Bool.not_eq_true' _ ▸ fresh _ given
  · intro index after symbol met bound
    obtain ⟨around, ident, isBase, located, same⟩ := program.spot_of_reference fresh met
    rw [same] at bound
    obtain ⟨introduction, visible, declared⟩ := Option.map_eq_some_iff.mp bound
    have accepts := Surroundings.accepts_iff.mpr visible
    have named : after.name = ident.name := by rw [same]
    rw [named]
    refine ⟨around, ident, isBase, introduction, located, ?_, accepts, accepts.introduces, declared⟩
    rw [same]
    exact congrArg (fun symbol => { ident with symbol }) bound
  · intro index after symbol met bound
    obtain ⟨around, base, field, isBase, located, same⟩ := program.spot_of_field fresh met
    refine ⟨around, base, field, isBase, located, ?_,
      program.selectsFrom_of_spot fresh (List.mem_of_getElem? located) same bound⟩
    rw [← bound, same]
  · intro index base field symbol met
    obtain ⟨around, mention, type, -, typed, -⟩ := program.spot_of_access fresh met
    exact ⟨type, typed⟩

theorem only_uses_annotated_reusing :
    reusing.IsFresh ∧ reusing.check.1.withoutSymbols = reusing ∧
      (∃ around introduction, Surroundings.Accepts around "p" introduction ∧
        introduction.symbol = .structInstance "T") ∧
      ∃ around base, reusing.SelectsFrom around base
        ⟨"y", ⟨6, 12⟩, some (.plain "boolean")⟩ (.plain "boolean") := by
  have fresh : reusing.IsFresh := by decide
  have ⟨erased, _, _, references, fields, _⟩ := reusing.only_uses_annotated fresh
  obtain ⟨around, _, _, introduction, -, -, accepts, -, declared⟩ :=
    references 10 ⟨"p", ⟨6, 8⟩, some (.structInstance "T")⟩ _ rfl rfl
  obtain ⟨around', base, _, _, -, -, selects⟩ :=
    fields 13 ⟨"y", ⟨6, 12⟩, some (.plain "boolean")⟩ _ rfl rfl
  exact ⟨fresh, erased, ⟨around, introduction, accepts, declared⟩, around', _, selects⟩

end Program

end NameBinding
