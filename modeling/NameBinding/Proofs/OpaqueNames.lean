/-
This file proves that an analysis cannot tell names apart but by whether they are the same, and
positions not at all. If the names of a program are changed in such a way that different ones stay
different, and its positions in any way, then at every place the analysis does what it did. The
argument goes by places: a name that was found is found under its new name, in the changed
declaration, and what it stands for differs in the names of structs and fields only. From there the
names flow back into look-ups, through the struct of a value and through the fields of a struct.
-/

import Mathlib.Data.List.Forall2
import Mathlib.Logic.Equiv.Basic
import NameBinding.Proofs.Accounts
import NameBinding.Proofs.Relabeled

namespace NameBinding

/-! ### Symbols of a changed program -/

/-- Whether a symbol is another one with the names of structs and fields changed. -/
inductive Symbol.Relabels (change : Relabeling) : Symbol → Symbol → Prop
  | plain (type : String) : Relabels change (.plain type) (.plain type)
  | function (ret : TypeName) (formals : List Formal) :
    Relabels change (.function (signatureOf ret formals))
      (.function (signatureOf (ret.relabeled change) (formals.map (Formal.relabeled change))))
  | structInstance (structName : String) :
    Relabels change (.structInstance structName) (.structInstance (change.name structName))
  | structDefinition (fields fields' : FieldTable)
    (names : fields'.names = fields.names.map change.name)
    (symbols : List.Forall₂ (Relabels change) (fields.entries.map Prod.snd)
      (fields'.entries.map Prod.snd)) :
    Relabels change (.structDefinition fields) (.structDefinition fields')

/-- Whether fields are others with the names changed. -/
structure FieldTable.Relabels (change : Relabeling) (fields fields' : FieldTable) : Prop where
  names : fields'.names = fields.names.map change.name
  symbols : List.Forall₂ (Symbol.Relabels change) (fields.entries.map Prod.snd)
    (fields'.entries.map Prod.snd)

/-- Whether an occurrence of a name is another one with the name and the position changed: it is
bound if that one is, and to the changed symbol. -/
structure Ident.Relabels (change : Relabeling) (ident ident' : Ident) : Prop where
  name : ident'.name = change.name ident.name
  pos : ident'.pos = change.pos ident.pos
  symbol : Option.Rel (Symbol.Relabels change) ident.symbol ident'.symbol

/-- Whether a thing met is another one with its names and positions changed. An access exposes a
symbol if the other one does. The names in its base are met before it. -/
inductive Visit.Relabels (change : Relabeling) : Visit → Visit → Prop
  | ident {occurrence occurrence' : Ident} (role : Role)
    (same : occurrence.Relabels change occurrence') :
    Relabels change (.ident occurrence role) (.ident occurrence' role)
  | access (base base' : Expr) {field field' : Ident} {exposed exposed' : Option Symbol}
    (sameField : field.Relabels change field')
    (sameExposed : Option.Rel (Symbol.Relabels change) exposed exposed') :
    Relabels change (.access base field exposed) (.access base' field' exposed')

/-- Whether a changed name stands for the changed symbol. -/
def Relabeling.Keeps (change : Relabeling) (meaning meaning' : String → Option Symbol) : Prop :=
  ∀ name, Option.Rel (Symbol.Relabels change) (meaning name) (meaning' (change.name name))

/-! ### Optional values that are related -/

section

variable {α α' β β' : Type} {source : α → α' → Prop} {target : β → β' → Prop}

theorem rel_bind {first : Option α} {first' : Option α'} {next : α → Option β}
    {next' : α' → Option β'} (related : Option.Rel source first first')
    (keeps : ∀ value value', source value value' → Option.Rel target (next value) (next' value')) :
    Option.Rel target (first.bind next) (first'.bind next') := by
  cases related with
  | none => exact .none
  | some same => exact keeps _ _ same

theorem isSome_eq_of_rel {first : Option α} {first' : Option α'}
    (related : Option.Rel source first first') : first'.isSome = first.isSome := by
  cases related <;> rfl

theorem isNone_eq_of_rel {first : Option α} {first' : Option α'}
    (related : Option.Rel source first first') : first'.isNone = first.isNone := by
  cases related <;> rfl

end

/-! ### Declared symbols -/

/-- The first of each name is the first of each new name if different names stay different. -/
theorem firstOfEach_map {α β : Type} (rename : String → String)
    (injective : Function.Injective rename) (convert : α → β) (entries : List (String × α)) :
    firstOfEach (entries.map (Prod.map rename convert)) =
      (firstOfEach entries).map (Prod.map rename convert) := by
  induction entries with
  | nil => rfl
  | cons entry rest inductionHypothesis =>
    have same : (fun later : String × β => later.1 != rename entry.1) ∘ Prod.map rename convert =
        fun later => later.1 != entry.1 := by
      funext later
      rw [Bool.eq_iff_iff]
      simp [injective.eq_iff]
    rw [List.map_cons, firstOfEach, firstOfEach, inductionHypothesis, List.filter_map,
      Prod.map_fst, same, List.map_cons]

theorem TypeName.isVoid_relabeled (change : Relabeling) (type : TypeName) :
    (type.relabeled change).isVoid = type.isVoid := by
  cases type <;> rfl

theorem TypeName.symbol_relabels (change : Relabeling) (type : TypeName) :
    type.symbol.Relabels change (type.relabeled change).symbol := by
  cases type with
  | struct name => exact .structInstance name.name
  | _ => exact .plain _

section

variable {change : Relabeling} (injective : Function.Injective change.name)

include injective

/-- The fields of a changed struct are the changed fields of the struct. -/
theorem fieldTable_relabels (fields : List VarDecl) :
    (fieldTable fields).Relabels change (fieldTable (fields.map (VarDecl.relabeled change))) := by
  -- Both tables have the first of each name of the same list, which has types for symbols.
  let solid : List (String × TypeName) :=
    (fields.filter fun field => !field.type.isVoid).map fun field => (field.name.name, field.type)
  have given : (fieldTable fields).entries =
      (firstOfEach solid).map (Prod.map id TypeName.symbol) := by
    rw [← firstOfEach_map id Function.injective_id, List.map_map]
    rfl
  have changed : (fieldTable (fields.map (VarDecl.relabeled change))).entries =
      (firstOfEach solid).map
        (Prod.map change.name fun type => (type.relabeled change).symbol) := by
    have kept : (fun field : VarDecl => !field.type.isVoid) ∘ VarDecl.relabeled change =
        fun field => !field.type.isVoid := by
      funext field
      exact congrArg not (field.type.isVoid_relabeled change)
    rw [← firstOfEach_map change.name injective, List.map_map, fieldTable, List.filter_map, kept,
      List.map_map]
    rfl
  refine ⟨?_, ?_⟩
  · rw [Scope.names, Scope.names, given, changed, List.map_map, List.map_map, List.map_map]
    rfl
  · rw [given, changed, List.map_map, List.map_map, List.forall₂_map_left_iff,
      List.forall₂_map_right_iff, List.forall₂_same]
    exact fun entry _ => entry.2.symbol_relabels change

theorem Introduction.symbol_relabels (introduction : Introduction) :
    introduction.symbol.Relabels change (introduction.relabeled change).symbol := by
  cases introduction with
  | typed type name => exact type.symbol_relabels change
  | function ret name formals => exact .function ret formals
  | struct name fields =>
    have same := fieldTable_relabels injective fields
    exact .structDefinition _ _ same.names same.symbols

theorem Introduction.introduces_relabeled (name : String) (introduction : Introduction) :
    (introduction.relabeled change).introduces (change.name name) =
      introduction.introduces name := by
  have solid : (introduction.relabeled change).isVoid = introduction.isVoid := by
    cases introduction with
    | typed type name => exact type.isVoid_relabeled change
    | _ => rfl
  have renamed : (introduction.relabeled change).name.name =
      change.name introduction.name.name := by
    cases introduction <;> rfl
  rw [introduces, introduces, solid, renamed, Bool.eq_iff_iff]
  simp [injective.eq_iff]

/-! ### Names that are looked up -/

/-- A changed name is visible by the changed declaration. -/
theorem Enclosure.visible?_relabeled (scope : Enclosure) (name : String) :
    (scope.relabeled change).visible? (change.name name) =
      (scope.visible? name).map (Introduction.relabeled change) := by
  have same : Introduction.introduces (change.name name) ∘ Introduction.relabeled change =
      Introduction.introduces name :=
    funext (Introduction.introduces_relabeled injective name)
  rw [visible?_eq, visible?_eq, relabeled, List.find?_map, same]

theorem Surroundings.visible?_relabeled (around : Surroundings) (name : String) :
    (around.relabeled change).visible? (change.name name) =
      (around.visible? name).map (Introduction.relabeled change) := by
  induction around with
  | nil => rfl
  | cons innermost outer inductionHypothesis =>
    rw [visible?, visible?] at inductionHypothesis ⊢
    rw [relabeled, List.map_cons, List.findSome?_cons, List.findSome?_cons,
      innermost.visible?_relabeled injective]
    cases innermost.visible? name with
    | none => exact inductionHypothesis
    | some introduction => rfl

/-- A changed name stands for the changed symbol. -/
theorem Surroundings.meaning?_relabeled (around : Surroundings) :
    change.Keeps around.meaning? (around.relabeled change).meaning? := by
  intro name
  rw [meaning?, meaning?, around.visible?_relabeled injective]
  cases around.visible? name with
  | none => exact .none
  | some introduction => exact .some (introduction.symbol_relabels injective)

/-- A changed field is found under its new name. -/
theorem FieldTable.Relabels.find? {fields fields' : FieldTable}
    (same : fields.Relabels change fields') (name : String) :
    Option.Rel (Symbol.Relabels change) (fields.find? name) (fields'.find? (change.name name)) := by
  obtain ⟨entries⟩ := fields
  obtain ⟨entries'⟩ := fields'
  obtain ⟨names, symbols⟩ := same
  rw [Scope.names, Scope.names] at names
  rw [Scope.find?, Scope.find?]
  dsimp only at names symbols ⊢
  induction entries generalizing entries' with
  | nil =>
    cases entries' with
    | nil => exact .none
    | cons entry rest => cases names
  | cons entry rest inductionHypothesis =>
    cases entries' with
    | nil => cases names
    | cons entry' rest' =>
      obtain ⟨key, symbol⟩ := entry
      obtain ⟨key', symbol'⟩ := entry'
      injection names with sameKey sameKeys
      obtain rfl : key' = change.name key := sameKey
      cases symbols with
      | cons sameSymbol sameSymbols =>
        rw [List.lookup_cons, List.lookup_cons]
        by_cases found : name = key
        · rw [found, beq_self_eq_true, beq_self_eq_true]
          exact .some sameSymbol
        · have passed : (name == key) = false := beq_false_of_ne found
          have passed' : (change.name name == change.name key) = false :=
            beq_false_of_ne fun same => found (injective same)
          rw [passed, passed']
          exact inductionHypothesis rest' sameKeys sameSymbols

end

/-! ### Expressions -/

namespace Symbol.Relabels

variable {change : Relabeling} {symbol symbol' : Symbol}

theorem structName? (same : symbol.Relabels change symbol') :
    symbol'.structName? = symbol.structName?.map change.name := by
  cases same <;> rfl

theorem fields? (same : symbol.Relabels change symbol') :
    Option.Rel (FieldTable.Relabels change) symbol.fields? symbol'.fields? := by
  cases same with
  | structDefinition fields fields' names symbols => exact .some ⟨names, symbols⟩
  | _ => exact .none

variable {meaning meaning' : String → Option Symbol}

theorem structType? (keeps : change.Keeps meaning meaning')
    (same : symbol.Relabels change symbol') :
    Option.Rel (Symbol.Relabels change) (symbol.structType? meaning)
      (symbol'.structType? meaning') := by
  rw [Symbol.structType?, Symbol.structType?, same.structName?]
  cases symbol.structName? with
  | none => exact .none
  | some name => exact keeps name

theorem members? (keeps : change.Keeps meaning meaning') (same : symbol.Relabels change symbol') :
    Option.Rel (FieldTable.Relabels change) (symbol.members? meaning)
      (symbol'.members? meaning') :=
  rel_bind (same.structType? keeps) fun _ _ sameType => sameType.fields?

end Symbol.Relabels

section

variable {change : Relabeling} (injective : Function.Injective change.name)
  {meaning meaning' : String → Option Symbol} (keeps : change.Keeps meaning meaning')

include injective keeps

namespace Expr

theorem denoted?_relabels : ∀ expr : Expr,
    Option.Rel (Symbol.Relabels change) (expr.denoted? meaning)
      ((expr.relabeled change).denoted? meaning')
  | id ident => keeps ident.name
  | access base field _ =>
    rel_bind (rel_bind (denoted?_relabels base) fun _ _ same => same.members? keeps)
      fun _ _ same => same.find? injective field.name
  | truth _ _ | intLit _ _ | strLit _ _ | assign _ _ | call _ _ | unary _ _ | binary _ _ _ => .none

theorem members?_relabels (expr : Expr) :
    Option.Rel (FieldTable.Relabels change) (expr.members? meaning)
      ((expr.relabeled change).members? meaning') :=
  rel_bind (expr.denoted?_relabels injective keeps) fun _ _ same => same.members? keeps

theorem exposed?_relabels (expr : Expr) :
    Option.Rel (Symbol.Relabels change) (expr.exposed? meaning)
      ((expr.relabeled change).exposed? meaning') :=
  rel_bind (expr.denoted?_relabels injective keeps) fun _ _ same => same.structType? keeps

end Expr

namespace Use

theorem baseFault?_relabeled (field : Ident) (base : Expr) :
    baseFault? meaning' (field.relabeled change) (base.relabeled change) =
      (baseFault? meaning field base).map (Diagnostic.relabeled change) := by
  cases base with
  | access base inner exposed =>
    have same := (Expr.access base inner exposed).exposed?_relabels injective keeps
    rw [Expr.relabeled] at same ⊢
    rw [baseFault?, baseFault?]
    generalize (Expr.access base inner exposed).exposed? meaning = given at same ⊢
    generalize Expr.exposed? meaning' _ = changed at same ⊢
    cases same <;> rfl
  | _ => rfl

/-- A changed use is blamed as the use is, at the changed position. -/
theorem fault?_relabeled (mention : Use) :
    (mention.relabeled change).fault? meaning' =
      (mention.fault? meaning).map (Diagnostic.relabeled change) := by
  cases mention with
  | reference ident isBase =>
    have same := keeps ident.name
    simp only [relabeled, fault?, Ident.relabeled]
    generalize meaning ident.name = given at same ⊢
    generalize meaning' (change.name ident.name) = changed at same ⊢
    cases same with
    | none => rfl
    | some same =>
      simp only [isNone_eq_of_rel (same.members? keeps)]
      split <;> rfl
  | member base field isBase =>
    have same := base.members?_relabels injective keeps
    simp only [relabeled, fault?, baseFault?_relabeled injective keeps]
    generalize base.members? meaning = given at same ⊢
    generalize (base.relabeled change).members? meaning' = changed at same ⊢
    cases same with
    | none => rfl
    | @some fields fields' same =>
      have found := same.find? injective field.name
      simp only [Ident.relabeled]
      generalize fields.find? field.name = given at found ⊢
      generalize fields'.find? (change.name field.name) = changed at found ⊢
      cases found with
      | none => rfl
      | some same =>
        simp only [isNone_eq_of_rel (same.structType? keeps)]
        split <;> rfl
  | access base field exposed => rfl

/-- A changed use is bound as the use is, to the changed symbol. -/
theorem found_relabels (mention : Use) :
    (mention.found meaning).Relabels change ((mention.relabeled change).found meaning') := by
  cases mention with
  | reference ident isBase => exact .ident .reference ⟨rfl, rfl, keeps ident.name⟩
  | member base field isBase =>
    have denoted := (Expr.access base field none).denoted?_relabels injective keeps
    exact .ident .field ⟨rfl, rfl, denoted⟩
  | access base field exposed =>
    have denoted := (Expr.access base field exposed).denoted?_relabels injective keeps
    have exposes := (Expr.access base field exposed).exposed?_relabels injective keeps
    exact .access _ _ ⟨rfl, rfl, denoted⟩ exposes

end Use

end

/-! ### Places -/

/-- A changed name without a symbol has none. -/
theorem Ident.relabels_relabeled (change : Relabeling) (name : Ident)
    (fresh : (!name.isBound) = true) : name.Relabels change (name.relabeled change) := by
  refine ⟨rfl, rfl, ?_⟩
  show Option.Rel _ name.symbol name.symbol
  rw [name.symbol_of_fresh fresh]
  exact .none

namespace Spot

variable {change : Relabeling} (injective : Function.Injective change.name)

include injective

theorem repeated?_relabeled (before : List Introduction) (name : Ident) :
    repeated? (before.map (Introduction.relabeled change)) (name.relabeled change) =
      (repeated? before name).map (Diagnostic.relabeled change) := by
  have same : Introduction.introduces (change.name name.name) ∘ Introduction.relabeled change =
      Introduction.introduces name.name :=
    funext (Introduction.introduces_relabeled injective name.name)
  have renamed : (name.relabeled change).name = change.name name.name := rfl
  rw [repeated?, repeated?, renamed, List.any_map, same]
  split <;> rfl

/-- A changed place is blamed as the place is, at the changed position. -/
theorem fault?_relabeled (spot : Spot) :
    (spot.relabeled change).fault? = spot.fault?.map (Diagnostic.relabeled change) := by
  cases spot with
  | resultType around name => rfl
  | typeName around name =>
    have same := rel_bind (around.meaning?_relabeled injective name.name)
      fun _ _ sameSymbol => sameSymbol.fields?
    have renamed : (name.relabeled change).name = change.name name.name := rfl
    rw [relabeled, fault?, fault?, renamed, isSome_eq_of_rel same]
    split <;> rfl
  | typed before type name =>
    rw [relabeled, fault?, fault?, repeated?_relabeled injective, type.isVoid_relabeled change]
    split <;> rfl
  | definition before name => exact repeated?_relabeled injective before name
  | use around mention =>
    exact mention.fault?_relabeled injective (around.meaning?_relabeled injective)

/-- At a changed place there is what is at the place, changed. -/
theorem found_relabels (spot : Spot) (fresh : spot.given.isFresh = true) :
    spot.found.Relabels change (spot.relabeled change).found := by
  cases spot with
  | resultType around name => exact .ident .typeName (name.relabels_relabeled change fresh)
  | typeName around name => exact .ident .typeName (name.relabels_relabeled change fresh)
  | typed before type name => exact .ident .declaration (name.relabels_relabeled change fresh)
  | definition before name => exact .ident .declaration (name.relabels_relabeled change fresh)
  | use around mention =>
    exact mention.found_relabels injective (around.meaning?_relabeled injective)

end Spot

/-! ### Whole programs -/

namespace Program

/-- Names and positions are opaque to an analysis. If all names of a program are changed, different
ones into different ones, and all positions in any way, then the same errors are reported in the
same order, each at its changed position. And what is met in the analysed program is, one after the
other, the same as before but for the change: the same names are bound, to symbols that differ in
the names of structs and fields only, and the same accesses expose a symbol. -/
theorem check_relabeled (program : Program) (change : Relabeling) (fresh : program.IsFresh)
    (injective : Function.Injective change.name) :
    (program.relabeled change).check.2.entries =
        program.check.2.entries.map (Diagnostic.relabeled change) ∧
      List.Forall₂ (Visit.Relabels change) program.check.1.visits
        (program.relabeled change).check.1.visits := by
  have accounts := program.check_accounts fresh
  have changed := (program.relabeled change).check_accounts (fresh.relabeled change)
  have places : (program.relabeled change).sites.flatMap Site.spots =
      (program.sites.flatMap Site.spots).map (Spot.relabeled change) :=
    program.spots_relabeled change
  refine ⟨?_, ?_⟩
  · have blamed : Spot.fault? ∘ Spot.relabeled change =
        fun spot => spot.fault?.map (Diagnostic.relabeled change) :=
      funext (Spot.fault?_relabeled injective)
    rw [changed.reports, accounts.reports, places, List.filterMap_map, blamed,
      List.map_filterMap]
  · rw [changed.found, accounts.found, places, List.map_map, List.forall₂_map_left_iff,
      List.forall₂_map_right_iff, List.forall₂_same]
    intro spot within
    refine spot.found_relabels injective (fresh spot.given ?_)
    rw [accounts.given]
    exact List.mem_map_of_mem within

/-- The program with a variable whose type has the name of a field. -/
def crossed : Program := ⟨[
  .struct ⟨⟨"a", ⟨1, 8⟩, none⟩, [{ type := .integer, name := ⟨"b", ⟨2, 11⟩, none⟩ }]⟩,
  .func ⟨.struct ⟨"a", ⟨4, 8⟩, none⟩, ⟨"f", ⟨4, 10⟩, none⟩, [],
    ⟨[.var { type := .struct ⟨"a", ⟨5, 10⟩, none⟩, name := ⟨"b", ⟨5, 12⟩, none⟩ }], [
      .write (.access (.id ⟨"b", ⟨6, 12⟩, none⟩) ⟨"b", ⟨6, 14⟩, none⟩ none),
      .write (.access (.id ⟨"b", ⟨7, 12⟩, none⟩) ⟨"a", ⟨7, 14⟩, none⟩ none)]⟩⟩]⟩

/-- The two names change places, and all positions become the same. -/
def exchange : Relabeling where
  name := Equiv.swap "a" "b"
  pos _ := ⟨0, 0⟩

theorem check_relabeled_crossed :
    crossed.IsFresh ∧ Function.Injective exchange.name ∧
      (crossed.relabeled exchange).check.2.entries = [⟨.undeclared, ⟨0, 0⟩⟩] := by
  have fresh : crossed.IsFresh := by decide
  have injective : Function.Injective exchange.name := (Equiv.swap "a" "b").injective
  refine ⟨fresh, injective, ?_⟩
  rw [(crossed.check_relabeled exchange fresh injective).1]
  decide

end Program

end NameBinding
