/-
This file says from which struct definition an access selects. A value of a struct type only carries
the name of its type, and the name is looked up again where the access is. So if a declaration of
the same name comes in between, the access selects from another definition than the one that the
type names where it is written, or from none at all: struct types are not statically scoped. As long
as the type names on the way are not hidden, the two readings of a chain agree from its head on.
-/

import NameBinding.Proofs.Accounts
import NameBinding.Proofs.Declared

namespace NameBinding

/-! ### Hiding -/

/-- Whether the name in a type stands for the same declaration at two places. -/
def TypeName.StandsAt (there around : Surroundings) : TypeName → Prop
  | struct name => around.visible? name.name = there.visible? name.name
  | _ => True

/-- Whether each type name that an expression has its type from still stands at a place for what it
stands for where it is written. -/
def Expr.Unhidden (around : Surroundings) : Expr → Prop
  | .id ident => ∀ type there, (Expr.id ident).declared? around = some (type, there) →
      type.StandsAt there around
  | .access base field exposed => base.Unhidden around ∧
      ∀ type there, (Expr.access base field exposed).declared? around = some (type, there) →
        type.StandsAt there around
  | _ => True

/-- A struct definition is found by the name in a type wherever the name still stands for it. -/
theorem TypeName.members?_of_definition? {there around place : Surroundings} {type : TypeName}
    {fields : List VarDecl} (found : type.definition? there = some (fields, place))
    (stands : type.StandsAt there around) :
    type.symbol.members? around.meaning? = some (fieldTable fields) := by
  obtain ⟨name, struct, rfl, declared⟩ := declared_of_definition? found
  have same : around.visible? name.name = some (.struct struct fields) :=
    stands.trans (Surroundings.visible?_of_declared? declared)
  have meant : around.meaning? name.name = some (.structDefinition (fieldTable fields)) := by
    rw [Surroundings.meaning?, same]
    rfl
  show (around.meaning? name.name).bind Symbol.fields? = _
  rw [meant]
  rfl

theorem fieldTable_find? (fields : List VarDecl) (name : String) :
    (fieldTable fields).find? name =
      (fields.find? fun decl => decl.introduction.introduces name).map fun decl =>
        decl.type.symbol := by
  rw [fieldTable_eq, Scope.find?_ofBindings, lookup_bindingsOf, List.find?_map, Option.map_map]
  rfl

namespace Expr

theorem Unhidden.stands {around there : Surroundings} {base : Expr} {type : TypeName}
    (unhidden : base.Unhidden around) (given : base.declared? around = some (type, there)) :
    type.StandsAt there around := by
  cases base with
  | id ident => exact unhidden type there given
  | access inner field exposed => exact unhidden.2 type there given
  | _ => exact nomatch given

/-- As long as no type name is hidden, an expression denotes what it was declared as. -/
theorem denoted?_of_declared? {around : Surroundings} :
    ∀ (base : Expr), base.Unhidden around → ∀ {type : TypeName} {there : Surroundings},
      base.declared? around = some (type, there) →
        base.denoted? around.meaning? = some type.symbol
  | .id ident, _, type, there, given => by
    rw [declared?] at given
    split at given
    · rename_i declared
      obtain ⟨rfl, rfl⟩ := Prod.mk.inj (Option.some.inj given)
      rw [denoted?, Surroundings.meaning?, Surroundings.visible?_of_declared? declared]
      rfl
    · cases given
  | .access base field exposed, unhidden, type, there, given => by
    obtain ⟨fields, decl, selected, member, rfl⟩ := declared?_access.mp given
    obtain ⟨outer, place, typed, found⟩ := definition?_eq_some.mp selected
    have stands := unhidden.1.stands typed
    rw [denoted?, denoted?_of_declared? base unhidden.1 typed]
    show ((outer.symbol.members? around.meaning?).bind fun members => members.find? field.name) = _
    rw [TypeName.members?_of_definition? found stands]
    show (fieldTable fields).find? field.name = _
    rw [fieldTable_find?, member]
    rfl

/-- As long as no type name is hidden, an access selects from the definition that the type of its
base names where it is written. -/
theorem members?_of_definition? {around there : Surroundings} {base : Expr} {fields : List VarDecl}
    (unhidden : base.Unhidden around) (found : base.definition? around = some (fields, there)) :
    base.members? around.meaning? = some (fieldTable fields) := by
  obtain ⟨type, place, typed, named⟩ := definition?_eq_some.mp found
  rw [members?, base.denoted?_of_declared? unhidden typed]
  exact TypeName.members?_of_definition? named (unhidden.stands typed)

/-- The symbol of the last name of an expression that is an identifier or an access. -/
def lastSymbol? : Expr → Option Symbol
  | id ident => ident.symbol
  | access _ field _ => field.symbol
  | _ => none

theorem lastSymbol?_bound (meaning : String → Option Symbol) (expr : Expr) :
    (expr.bound meaning).lastSymbol? = expr.denoted? meaning := by
  cases expr <;> rfl

end Expr

/-! ### The uses of an access -/

/-- Whether all uses of an access are among some uses. -/
def HasAccess (base : Expr) (field : Ident) (isBase : Bool) (mentions : List Use) : Prop :=
  ∃ exposed, ∀ mention ∈ (Expr.access base field exposed).uses isBase, mention ∈ mentions

theorem HasAccess.mono {base : Expr} {field : Ident} {isBase : Bool} {mentions more : List Use}
    (has : HasAccess base field isBase mentions) (wider : mentions ⊆ more) :
    HasAccess base field isBase more := by
  obtain ⟨exposed, all⟩ := has
  exact ⟨exposed, fun mention among => wider (all mention among)⟩

mutual

/-- With the field of an access, the whole access is among the uses of an expression. -/
theorem Expr.hasAccess_of_member {base : Expr} {field : Ident} {isBase : Bool} :
    ∀ (expr : Expr) (asBase : Bool), .member base field isBase ∈ expr.uses asBase →
      HasAccess base field isBase (expr.uses asBase)
  | .truth _ _, _, met | .intLit _ _, _, met | .strLit _ _, _, met => nomatch met
  | .id ident, asBase, met => nomatch List.mem_singleton.mp met
  | .access inner name exposed, asBase, met => by
    rw [Expr.uses] at met
    rcases List.mem_append.mp met with deeper | here
    · exact (Expr.hasAccess_of_member inner true deeper).mono (List.subset_append_left _ _)
    · rcases List.mem_cons.mp here with same | other
      · obtain ⟨rfl, rfl, rfl⟩ := Use.member.inj same
        exact ⟨exposed, fun _ among => among⟩
      · exact nomatch List.mem_singleton.mp other
  | .assign lhs rhs, asBase, met | .binary _ lhs rhs, asBase, met => by
    rw [Expr.uses] at met ⊢
    rcases List.mem_append.mp met with left | right
    · exact (Expr.hasAccess_of_member lhs false left).mono (List.subset_append_left _ _)
    · exact (Expr.hasAccess_of_member rhs false right).mono (List.subset_append_right _ _)
  | .call callee args, asBase, met => by
    rw [Expr.uses] at met ⊢
    rcases List.mem_cons.mp met with other | later
    · exact nomatch other
    · exact (Expr.hasAccess_of_memberOfList args later).mono (List.subset_cons_self _ _)
  | .unary op operand, asBase, met => by
    rw [Expr.uses] at met ⊢
    exact Expr.hasAccess_of_member operand false met

theorem Expr.hasAccess_of_memberOfList {base : Expr} {field : Ident} {isBase : Bool} :
    ∀ exprs : List Expr, .member base field isBase ∈ Expr.usesOfList exprs →
      HasAccess base field isBase (Expr.usesOfList exprs)
  | [], met => nomatch met
  | expr :: rest, met => by
    rw [Expr.usesOfList] at met ⊢
    rcases List.mem_append.mp met with here | later
    · exact (Expr.hasAccess_of_member expr false here).mono (List.subset_append_left _ _)
    · exact (Expr.hasAccess_of_memberOfList rest later).mono (List.subset_append_right _ _)

end

/-- With the field of an access, the whole access is among the spots of a program. -/
theorem Program.spots_of_member (program : Program) {around : Surroundings} {base : Expr}
    {field : Ident} {isBase : Bool}
    (located : .use around (.member base field isBase) ∈ program.spots) :
    ∃ exposed, ∀ mention ∈ (Expr.access base field exposed).uses isBase,
      .use around mention ∈ program.spots := by
  obtain ⟨site, among, met⟩ := List.mem_flatMap.mp located
  obtain ⟨value, rfl⟩ := Site.expr_of_use met
  obtain ⟨mention, member, same⟩ := List.mem_map.mp met
  obtain ⟨-, rfl⟩ := Spot.use.inj same
  obtain ⟨exposed, all⟩ := Expr.hasAccess_of_member value false member
  exact ⟨exposed, fun mention known => List.mem_flatMap.mpr
    ⟨_, among, List.mem_map_of_mem (all mention known)⟩⟩

/-! ### What an access selects -/

/-- Whether the field of an access is selected from some fields: it is bound to the first one of its
name that is not void, and it is blamed as undeclared if there is none. -/
structure SelectedFrom (fields : List VarDecl) (field after : Ident) (blame : Option Diagnostic) :
    Prop where
  symbol : after.symbol = (fieldTable fields).find? field.name
  undeclared : blame = some ⟨.undeclared, field.pos⟩ ↔ after.isBound = false

theorem selectedFrom {meaning : String → Option Symbol} {base : Expr} {fields : List VarDecl}
    (members : base.members? meaning = some (fieldTable fields)) (field : Ident) (isBase : Bool) :
    SelectedFrom fields field
      { field with symbol := (Expr.access base field none).denoted? meaning }
      ((Use.member base field isBase).fault? meaning) := by
  have selected : (Expr.access base field none).denoted? meaning =
      (fieldTable fields).find? field.name := by
    show (base.members? meaning).bind (fun members => members.find? field.name) = _
    rw [members]
    rfl
  refine ⟨selected, ?_⟩
  simp only [Use.fault?, members, selected, Ident.isBound]
  cases (fieldTable fields).find? field.name with
  | none => simp
  | some symbol => cases blamed : isBase && (symbol.structType? meaning).isNone <;> simp

namespace Program

/-- What an access selects, whose base is bound as in the second tree here. -/
structure Selects (program : Program) (around : Surroundings) (base bound : Expr)
    (field after : Ident) (blame : Option Diagnostic) : Prop where
  /-- The name and the position of the field stay. -/
  same : after = { field with symbol := after.symbol }
  /-- If the base is a value of a struct type, and the name of the type stands for a struct
  definition where the access is, the field is selected from this definition. -/
  named : ∀ type, bound.lastSymbol? = some (.structInstance type) →
    ∀ name fields, around.visible? type = some (.struct name fields) →
      SelectedFrom fields field after blame
  /-- If the name of the type does not stand for a struct definition where the access is, the field
  is not bound, and a base that is an identifier is blamed. -/
  unnamed : ∀ type, bound.lastSymbol? = some (.structInstance type) →
    (∀ name fields, around.visible? type ≠ some (.struct name fields)) →
      after.isBound = false ∧ ∀ ident, base = .id ident →
        ⟨.colonAccessOfNonStruct, ident.pos⟩ ∈ program.check.2.entries
  /-- If every type name on the way stands for the same where the access is as where it is written,
  the field is selected from the definition that the type of the base names where it is written. -/
  unhidden : ∀ fields there, base.definition? around = some (fields, there) →
    base.Unhidden around → SelectedFrom fields field after blame
  /-- The type of the base is written in the program. -/
  written : ∀ name there, base.declared? around = some (.struct name, there) →
    .typeName there name ∈ program.spots

theorem fault_mem (program : Program) (fresh : program.IsFresh) {spot : Spot}
    {diagnostic : Diagnostic} (among : spot ∈ program.spots)
    (blamed : spot.fault? = some diagnostic) : diagnostic ∈ program.check.2.entries := by
  rw [(program.check_accounts fresh).reports]
  exact List.mem_filterMap.mpr ⟨spot, among, blamed⟩

theorem selects (program : Program) (fresh : program.IsFresh) {around : Surroundings} {base : Expr}
    {field : Ident} {isBase : Bool}
    (located : .use around (.member base field isBase) ∈ program.spots) :
    program.Selects around base (base.bound around.meaning?) field
      { field with symbol := (Expr.access base field none).denoted? around.meaning? }
      ((Use.member base field isBase).fault? around.meaning?) := by
  have typed : ∀ type, (base.bound around.meaning?).lastSymbol? = some (.structInstance type) →
      base.members? around.meaning? = (around.meaning? type).bind Symbol.fields? := by
    intro type value
    rw [Expr.lastSymbol?_bound] at value
    rw [Expr.members?, value]
    rfl
  refine ⟨rfl, ?_, ?_, ?_, ?_⟩
  · intro type value name fields found
    refine selectedFrom ?_ field isBase
    rw [typed type value, Surroundings.meaning?, found]
    rfl
  · intro type value missing
    have closed : base.members? around.meaning? = none := by
      rw [typed type value, Surroundings.meaning?]
      cases found : around.visible? type with
      | none => rfl
      | some introduction =>
        cases introduction with
        | struct name fields => exact absurd found (missing name fields)
        | typed type' name => cases type' <;> rfl
        | function ret name formals => rfl
    refine ⟨?_, ?_⟩
    · show ((base.members? around.meaning?).bind _).isSome = false
      rw [closed]
      rfl
    · rintro ident rfl
      obtain ⟨exposed, all⟩ := program.spots_of_member located
      refine program.fault_mem fresh (all (.reference ident true) List.mem_cons_self) ?_
      have bound : around.meaning? ident.name = some (.structInstance type) := value
      have none : (Symbol.structInstance type).members? around.meaning? = none := by
        rw [Expr.members?, Expr.denoted?, bound] at closed
        exact closed
      show (Use.reference ident true).fault? around.meaning? = _
      simp only [Use.fault?, bound, none]
      rfl
  · intro fields there found unhidden
    exact selectedFrom (Expr.members?_of_definition? unhidden found) field isBase
  · intro name there declared
    exact program.spot_of_declared? located declared

end Program

/-- A place with a field is a use of it. -/
theorem Spot.given_field (spot : Spot) (field : Ident) (met : spot.given = .ident field .field) :
    ∃ around base isBase, spot = .use around (.member base field isBase) := by
  cases spot with
  | use around mention =>
    cases mention with
    | reference ident isBase => cases met
    | member base name isBase => cases met; exact ⟨around, base, isBase, rfl⟩
    | access base name exposed => cases met
  | _ => cases met

namespace Program

/-- The struct type of a base is found by its name where the access is. So an access selects from
the definition that the type names where it is written as long as no type name on the way is
hidden. -/
theorem accesses_select_by_name (program : Program) (fresh : program.IsFresh) :
    program.check.2.entries = program.blames.filterMap id ∧
      ∀ (index : Nat) (field : Ident), program.visits[index]? = some (.ident field .field) →
        ∃ (around : Surroundings) (base : Expr) (isBase : Bool) (after : Ident)
          (exposed : Option Symbol) (blame : Option Diagnostic),
          program.spots[index]? = some (.use around (.member base field isBase)) ∧
          program.check.1.visits[index]? = some (.ident after .field) ∧
          .access (base.bound around.meaning?) after exposed ∈ program.check.1.visits ∧
          program.blames[index]? = some blame ∧
          program.Selects around base (base.bound around.meaning?) field after blame := by
  refine ⟨program.entries_eq_blames fresh, ?_⟩
  intro index field met
  obtain ⟨spot, located, given, found, blamed⟩ := program.spot_of_visit fresh index _ met
  obtain ⟨around, base, isBase, rfl⟩ := spot.given_field field given
  have among := List.mem_of_getElem? located
  obtain ⟨exposed, all⟩ := program.spots_of_member among
  have access : Spot.found (.use around (.access base field exposed)) ∈
      program.check.1.visits := by
    rw [(program.check_accounts fresh).found]
    refine List.mem_map_of_mem (all _ ?_)
    rw [Expr.uses]
    exact List.mem_append_right _ (List.mem_cons_of_mem _ List.mem_cons_self)
  exact ⟨around, base, isBase, _, _, _, located, found, access, blamed,
    program.selects fresh among⟩

/-- A program with a struct type that is hidden in one function and replaced by another one of its
name in the other. -/
def reusing : Program := ⟨[
  .struct ⟨⟨"P", ⟨1, 8⟩, none⟩, [{ type := .integer, name := ⟨"x", ⟨1, 20⟩, none⟩ }]⟩,
  .struct ⟨⟨"T", ⟨2, 8⟩, none⟩,
    [{ type := .struct ⟨"P", ⟨2, 19⟩, none⟩, name := ⟨"q", ⟨2, 21⟩, none⟩ }]⟩,
  .var { type := .struct ⟨"T", ⟨3, 8⟩, none⟩, name := ⟨"p", ⟨3, 10⟩, none⟩ },
  .func ⟨.void, ⟨"f", ⟨4, 6⟩, none⟩, [],
    ⟨[.struct ⟨⟨"P", ⟨5, 10⟩, none⟩, [{ type := .boolean, name := ⟨"y", ⟨5, 22⟩, none⟩ }]⟩],
      [.write (.access (.access (.id ⟨"p", ⟨6, 8⟩, none⟩) ⟨"q", ⟨6, 10⟩, none⟩ none)
        ⟨"y", ⟨6, 12⟩, none⟩ none)]⟩⟩,
  .func ⟨.void, ⟨"g", ⟨8, 6⟩, none⟩, [⟨.integer, ⟨"T", ⟨8, 16⟩, none⟩⟩],
    ⟨[], [.write (.access (.id ⟨"p", ⟨9, 8⟩, none⟩) ⟨"q", ⟨9, 10⟩, none⟩ none)]⟩⟩]⟩

theorem accesses_select_by_name_reusing :
    reusing.IsFresh ∧
      (∃ after : Ident, reusing.check.1.visits[11]? = some (.ident after .field) ∧
        after.symbol = some (.structInstance "P")) ∧
      (∃ after : Ident, reusing.check.1.visits[13]? = some (.ident after .field) ∧
        after.symbol = some (.plain "boolean")) ∧
      ⟨.colonAccessOfNonStruct, ⟨9, 8⟩⟩ ∈ reusing.check.2.entries := by
  have fresh : reusing.IsFresh := by decide
  have ⟨_, selected⟩ := reusing.accesses_select_by_name fresh
  refine ⟨fresh, ?_, ?_, ?_⟩
  · obtain ⟨around, base, isBase, after, exposed, blame, located, found, -, -, selects⟩ :=
      selected 11 ⟨"q", ⟨6, 10⟩, none⟩ rfl
    cases located
    refine ⟨after, found, (selects.unhidden _ _ rfl ?_).symbol⟩
    rintro type there ⟨⟩
    rfl
  · obtain ⟨around, base, isBase, after, exposed, blame, located, found, -, -, selects⟩ :=
      selected 13 ⟨"y", ⟨6, 12⟩, none⟩ rfl
    cases located
    exact ⟨after, found, (selects.named "P" rfl _ _ rfl).symbol⟩
  · obtain ⟨around, base, isBase, after, exposed, blame, located, found, -, -, selects⟩ :=
      selected 18 ⟨"q", ⟨9, 10⟩, none⟩ rfl
    cases located
    exact (selects.unnamed "T" rfl nofun).2 _ rfl

/-! ### No static scoping -/

/-- Whether every access of a program selects from the definition that the type of its base names
where it is written. -/
def SelectsStatically (program : Program) : Prop :=
  ∀ (index : Nat) (around : Surroundings) (base : Expr) (field : Ident) (isBase : Bool),
    program.spots[index]? = some (.use around (.member base field isBase)) →
      ∀ fields there, base.definition? around = some (fields, there) →
        ∃ (after : Ident) (blame : Option Diagnostic),
          program.check.1.visits[index]? = some (.ident after .field) ∧
          program.blames[index]? = some blame ∧
          SelectedFrom fields field after blame

/-- A program in which the struct type of a variable is hidden by another one where the variable is
used. -/
def hidden : Program := ⟨[
  .struct ⟨⟨"T", ⟨1, 8⟩, none⟩, [{ type := .integer, name := ⟨"x", ⟨1, 20⟩, none⟩ }]⟩,
  .var { type := .struct ⟨"T", ⟨2, 8⟩, none⟩, name := ⟨"p", ⟨2, 10⟩, none⟩ },
  .func ⟨.void, ⟨"f", ⟨3, 6⟩, none⟩, [],
    ⟨[.struct ⟨⟨"T", ⟨4, 10⟩, none⟩, [{ type := .integer, name := ⟨"y", ⟨4, 22⟩, none⟩ }]⟩],
      [.write (.access (.id ⟨"p", ⟨5, 8⟩, none⟩) ⟨"x", ⟨5, 10⟩, none⟩ none)]⟩⟩]⟩

/-- The access to the field of the first definition fails, since the second one has none. -/
theorem not_selectsStatically_hidden :
    hidden.IsFresh ∧ ¬ hidden.SelectsStatically ∧
      hidden.check.2.entries = [⟨.undeclared, ⟨5, 10⟩⟩] := by
  refine ⟨by decide, fun static => ?_, rfl⟩
  obtain ⟨after, blame, found, -, selected⟩ := static 8 _ _ _ _ rfl _ _ rfl
  cases found
  exact nomatch selected.symbol

end Program

end NameBinding
