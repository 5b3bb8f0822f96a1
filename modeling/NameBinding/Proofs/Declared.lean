/-
This file finds the place of a declaration from a place where its name is used. What a name stands
for was declared in one of the scopes around the use, and around that declaration there are the same
outer scopes, and its own scope with only what comes before it in force. That place is one of the
program: going along its text, every declaration that comes into force was a site with just these
scopes around it. So the type of a variable can be read where it is written, and the fields of a
struct with their types as well, which makes the static reading of a chain of accesses.
-/

import NameBinding.Proofs.Spots

namespace NameBinding

/-! ### The place of a declaration -/

namespace Enclosure

/-- The scope as it is around the declaration that is accepted for a name. -/
def upTo (scope : Enclosure) (name : String) : Enclosure :=
  let place := scope.declarations.findIdx (Introduction.introduces name)
  ⟨scope.declarations.take place, scope.declarations.drop place⟩

theorem declarations_split (declarations : List Introduction) (place : Nat) :
    (Enclosure.mk (declarations.take place) (declarations.drop place)).declarations =
      declarations :=
  List.take_append_drop place declarations

end Enclosure

namespace Surroundings

/-- The declaration that a name stands for, and the scopes around that declaration. -/
def declared? : Surroundings → String → Option (Introduction × Surroundings)
  | [], _ => none
  | scope :: outer, name =>
    match scope.visible? name with
    | some declaration => some (declaration, scope.upTo name :: outer)
    | none => declared? outer name

theorem declared?_fst (around : Surroundings) (name : String) :
    (around.declared? name).map Prod.fst = around.visible? name := by
  unfold visible?
  induction around with
  | nil => rfl
  | cons scope outer inductionHypothesis =>
    rw [declared?, List.findSome?_cons]
    cases scope.visible? name with
    | none => exact inductionHypothesis
    | some declaration => rfl

theorem visible?_of_declared? {around there : Surroundings} {name : String}
    {declaration : Introduction} (found : around.declared? name = some (declaration, there)) :
    around.visible? name = some declaration := by
  rw [← declared?_fst, found]
  rfl

end Surroundings

/-! ### Declarations among the sites -/

/-- The sites that belong to a declaration at a place. -/
def Introduction.SitedIn (sites : List Site) (there : Surroundings) : Introduction → Prop
  | typed type name => ∃ before, Site.typed there before type name ∈ sites
  | function _ _ _ => True
  | struct _ fields => ∀ site ∈ VarDecl.sitesOfFields there [] fields, site ∈ sites

namespace Surroundings

/-- Every declaration in force is among the sites, with what was in force before it. -/
def Rooted (sites : List Site) : Surroundings → Prop
  | [] => True
  | scope :: outer =>
    (∀ (place : Nat) (declaration : Introduction), scope.inForce[place]? = some declaration →
      declaration.SitedIn sites
        (⟨scope.declarations.take place, scope.declarations.drop place⟩ :: outer)) ∧
    Rooted sites outer

theorem Rooted.fresh {sites : List Site} {outer : Surroundings} (rooted : Rooted sites outer)
    (later : List Introduction) : Rooted sites (⟨[], later⟩ :: outer) :=
  ⟨nofun, rooted⟩

/-- A declaration comes into force. -/
theorem Rooted.push {sites : List Site} {outer : Surroundings} {before later : List Introduction}
    {declaration : Introduction}
    (rooted : Rooted sites (⟨before, declaration :: later⟩ :: outer))
    (sited : declaration.SitedIn sites (⟨before, declaration :: later⟩ :: outer)) :
    Rooted sites (⟨before ++ [declaration], later⟩ :: outer) := by
  have same : (Enclosure.mk (before ++ [declaration]) later).declarations =
      before ++ declaration :: later := List.append_cons before declaration later |>.symm
  refine ⟨fun place found met => ?_, rooted.2⟩
  rw [same]
  rcases Nat.lt_trichotomy place before.length with earlier | rfl | beyond
  · rw [List.getElem?_append_left earlier] at met
    exact rooted.1 place found met
  · rw [List.getElem?_concat_length] at met
    obtain rfl := Option.some.inj met
    rw [List.take_left, List.drop_left]
    exact sited
  · rw [List.getElem?_eq_none (by rw [List.length_append, List.length_singleton]; omega)] at met
    exact nomatch met

/-- Only what was in force before is in force around an earlier declaration of the scope. -/
theorem Rooted.upTo {sites : List Site} {scope : Enclosure} {outer : Surroundings} {name : String}
    (rooted : Rooted sites (scope :: outer)) (reached : scope.isInForce name = true) :
    Rooted sites (scope.upTo name :: outer) := by
  rw [Enclosure.isInForce, decide_eq_true_eq] at reached
  refine ⟨fun place found met => ?_, rooted.2⟩
  rw [Enclosure.upTo, Enclosure.declarations_split]
  refine rooted.1 place found ?_
  -- What is in force up to the declaration is the front of what is in force.
  have front : (scope.declarations.take
      (scope.declarations.findIdx (Introduction.introduces name)))[place]? = some found := met
  rw [List.getElem?_take, Option.ite_none_right_eq_some, Enclosure.declarations] at front
  rw [List.getElem?_append_left (Nat.lt_trans front.1 reached)] at front
  exact front.2

/-- The declaration that a name stands for is among the sites, and so is what is in force around
it. -/
theorem Rooted.declared {sites : List Site} {around there : Surroundings} {name : String}
    {declaration : Introduction} (rooted : Rooted sites around)
    (found : around.declared? name = some (declaration, there)) :
    declaration.SitedIn sites there ∧ Rooted sites there := by
  induction around with
  | nil => exact nomatch found
  | cons scope outer inductionHypothesis =>
    rw [declared?] at found
    cases seen : scope.visible? name with
    | none =>
      rw [seen] at found
      exact inductionHypothesis rooted.2 found
    | some accepted =>
      rw [seen] at found
      obtain ⟨rfl, rfl⟩ := Prod.mk.inj (Option.some.inj found)
      rw [Enclosure.visible?, Option.ite_none_right_eq_some] at seen
      obtain ⟨reached, accepted?⟩ := seen
      have early := reached
      rw [Enclosure.isInForce, decide_eq_true_eq, Enclosure.declarations] at early
      rw [Enclosure.accepted?, List.find?_eq_getElem?_findIdx, Enclosure.declarations,
        List.getElem?_append_left early] at accepted?
      exact ⟨rooted.1 _ _ accepted?, rooted.upTo reached⟩

end Surroundings

/-! ### The scopes around the sites of a program -/

/-- The scopes around a site. -/
def Site.around : Site → Surroundings
  | result around _ => around
  | typed around _ _ _ => around
  | definition _ _ => []
  | expr around _ => around

open Surroundings (Rooted)

variable {sites : List Site}

theorem VarDecl.sitesOfFields_around {around : Surroundings} {before : List Introduction}
    {fields : List VarDecl} :
    ∀ site ∈ VarDecl.sitesOfFields around before fields, site.around = around := by
  induction fields generalizing before with
  | nil => exact nofun
  | cons field rest inductionHypothesis =>
    exact List.forall_mem_cons.mpr ⟨rfl, inductionHypothesis⟩

theorem Formal.sites_rooted {outer : Surroundings} {before later : List Introduction}
    {formals : List Formal}
    (rooted : Rooted sites (⟨before, formals.map Formal.introduction ++ later⟩ :: outer))
    (among : ∀ site ∈ Formal.sitesOfList outer before later formals, site ∈ sites) :
    (∀ site ∈ Formal.sitesOfList outer before later formals, Rooted sites site.around) ∧
      Rooted sites (⟨before ++ formals.map Formal.introduction, later⟩ :: outer) := by
  induction formals generalizing before with
  | nil =>
    rw [List.map_nil, List.append_nil]
    exact ⟨nofun, rooted⟩
  | cons formal rest inductionHypothesis =>
    rw [Formal.sitesOfList, List.forall_mem_cons] at among
    have sited : formal.introduction.SitedIn sites _ := ⟨before, among.1⟩
    have pushed := rooted.push sited
    obtain ⟨all, last⟩ := inductionHypothesis pushed among.2
    rw [List.map_cons, List.append_cons]
    exact ⟨List.forall_mem_cons.mpr ⟨rooted, all⟩, last⟩

/-- A declaration that is a site of its own is among the sites. -/
theorem Decl.introduction_sited {outer : Surroundings} {before later : List Introduction}
    {decl : Decl} (among : ∀ site ∈ decl.sites outer before later, site ∈ sites) :
    decl.introduction.SitedIn sites (⟨before, decl.introduction :: later⟩ :: outer) := by
  cases decl with
  | var decl =>
    rw [Decl.sites, List.forall_mem_singleton] at among
    exact ⟨before, among⟩
  | func decl => trivial
  | struct decl =>
    rw [Decl.sites, List.forall_mem_cons] at among
    exact among.2

mutual

theorem Block.sites_rooted {outer : Surroundings} {before : List Introduction} : ∀ block : Block,
    Rooted sites (⟨before, block.decls.map Decl.introduction⟩ :: outer) →
      (∀ site ∈ block.sites outer before, site ∈ sites) →
        ∀ site ∈ block.sites outer before, Rooted sites site.around
  | ⟨decls, stmts⟩, rooted, among => by
    rw [Block.sites, List.forall_mem_append] at among ⊢
    obtain ⟨all, last⟩ := Decl.sitesOfList_rooted decls rooted among.1
    exact ⟨all, Stmt.sitesOfList_rooted stmts last among.2⟩

theorem Stmt.sites_rooted {around : Surroundings} (rooted : Rooted sites around) : ∀ stmt : Stmt,
    (∀ site ∈ stmt.sites around, site ∈ sites) →
      ∀ site ∈ stmt.sites around, Rooted sites site.around
  | .assign _ _, _ => by
    rw [Stmt.sites]
    exact List.forall_mem_cons.mpr ⟨rooted, List.forall_mem_singleton.mpr rooted⟩
  | .postInc _, _ | .postDec _, _ | .read _, _ | .write _, _ | .call _ _, _
  | .ret (some _), _ => by
    rw [Stmt.sites]
    exact List.forall_mem_singleton.mpr rooted
  | .ret none, _ => by
    rw [Stmt.sites]
    exact nofun
  | .ifThen cond body, among | .whileDo cond body, among => by
    rw [Stmt.sites, List.forall_mem_cons] at among ⊢
    exact ⟨rooted, Block.sites_rooted body (rooted.fresh _) among.2⟩
  | .ifElse cond thenBranch elseBranch, among => by
    rw [Stmt.sites, List.forall_mem_cons, List.forall_mem_append] at among ⊢
    exact ⟨rooted, Block.sites_rooted thenBranch (rooted.fresh _) among.2.1,
      Block.sites_rooted elseBranch (rooted.fresh _) among.2.2⟩

theorem Stmt.sitesOfList_rooted {around : Surroundings} : ∀ stmts : List Stmt,
    Rooted sites around → (∀ site ∈ Stmt.sitesOfList around stmts, site ∈ sites) →
      ∀ site ∈ Stmt.sitesOfList around stmts, Rooted sites site.around
  | [], _, _ => nofun
  | stmt :: rest, rooted, among => by
    rw [Stmt.sitesOfList, List.forall_mem_append] at among ⊢
    exact ⟨Stmt.sites_rooted rooted stmt among.1, Stmt.sitesOfList_rooted rest rooted among.2⟩

theorem Function.sites_rooted {outer : Surroundings} {before later : List Introduction} :
    ∀ decl : Function,
      Rooted sites (⟨before, .function decl.ret decl.name decl.formals :: later⟩ :: outer) →
        (∀ site ∈ decl.sites outer before later, site ∈ sites) →
          ∀ site ∈ decl.sites outer before later, Rooted sites site.around
  | ⟨ret, name, formals, body⟩, rooted, among => by
    rw [Function.sites, List.forall_mem_cons, List.forall_mem_cons, List.forall_mem_append]
      at among ⊢
    obtain ⟨-, -, formalsAmong, bodyAmong⟩ := among
    have within := rooted.push trivial
    obtain ⟨all, last⟩ := Formal.sites_rooted (within.fresh _) formalsAmong
    exact ⟨rooted, trivial, all, Block.sites_rooted body last bodyAmong⟩

theorem Decl.sites_rooted {outer : Surroundings} {before later : List Introduction} :
    ∀ decl : Decl, Rooted sites (⟨before, decl.introduction :: later⟩ :: outer) →
      (∀ site ∈ decl.sites outer before later, site ∈ sites) →
        ∀ site ∈ decl.sites outer before later, Rooted sites site.around
  | .var decl, rooted, _ => by
    rw [Decl.sites]
    exact List.forall_mem_singleton.mpr rooted
  | .func decl, rooted, among => by
    rw [Decl.sites] at among ⊢
    exact Function.sites_rooted decl rooted among
  | .struct decl, rooted, _ => by
    rw [Decl.sites]
    exact List.forall_mem_cons.mpr ⟨trivial, fun site field =>
      VarDecl.sitesOfFields_around site field ▸ rooted⟩

theorem Decl.sitesOfList_rooted {outer : Surroundings} {before : List Introduction} :
    ∀ decls : List Decl, Rooted sites (⟨before, decls.map Decl.introduction⟩ :: outer) →
      (∀ site ∈ Decl.sitesOfList outer before decls, site ∈ sites) →
        (∀ site ∈ Decl.sitesOfList outer before decls, Rooted sites site.around) ∧
          Rooted sites (⟨before ++ decls.map Decl.introduction, []⟩ :: outer)
  | [], rooted, _ => by
    rw [List.map_nil, List.append_nil]
    exact ⟨nofun, rooted⟩
  | decl :: rest, rooted, among => by
    rw [Decl.sitesOfList, List.forall_mem_append] at among ⊢
    have pushed := rooted.push (Decl.introduction_sited among.1)
    obtain ⟨all, last⟩ := Decl.sitesOfList_rooted rest pushed among.2
    rw [List.map_cons, List.append_cons before decl.introduction (rest.map Decl.introduction)]
    exact ⟨⟨Decl.sites_rooted decl rooted among.1, all⟩, last⟩

end

/-- Around every site of a program, the declarations in force are sites of the program. -/
theorem Program.sites_rooted (program : Program) :
    ∀ site ∈ program.sites, Rooted program.sites site.around := by
  have outside : Rooted program.sites [] := trivial
  exact (Decl.sitesOfList_rooted program.decls (outside.fresh _) fun _ among => among).1

/-! ### The static reading -/

namespace TypeName

/-- The fields of the struct that a type names at a place, and the scopes around these fields. -/
def definition? (there : Surroundings) : TypeName → Option (List VarDecl × Surroundings)
  | struct name =>
    match there.declared? name.name with
    | some (.struct _ fields, around) => some (fields, around)
    | _ => none
  | _ => none

theorem declared_of_definition? {there around : Surroundings} {type : TypeName}
    {fields : List VarDecl} (found : type.definition? there = some (fields, around)) :
    ∃ name struct, type = .struct name ∧
      there.declared? name.name = some (.struct struct fields, around) := by
  cases type with
  | struct name =>
    simp only [definition?] at found
    split at found
    · rename_i struct fields' around' declared
      obtain ⟨rfl, rfl⟩ := Prod.mk.inj (Option.some.inj found)
      exact ⟨name, struct, rfl, declared⟩
    · exact nomatch found
  | _ => exact nomatch found

end TypeName

namespace Expr

/-- The type that the last name of an expression was declared with, and the scopes around that
declaration. A field is one of the struct that the type of the base names where it is written. -/
def declared? (around : Surroundings) : Expr → Option (TypeName × Surroundings)
  | id ident =>
    match around.declared? ident.name with
    | some (.typed type _, there) => some (type, there)
    | _ => none
  | access base field _ => do
    let (type, there) ← base.declared? around
    let (fields, there) ← type.definition? there
    let decl ← fields.find? fun decl => decl.introduction.introduces field.name
    return (decl.type, there)
  | _ => none

/-- The fields of the struct that the type of an expression names where it is written. -/
def definition? (around : Surroundings) (base : Expr) : Option (List VarDecl × Surroundings) := do
  let (type, there) ← base.declared? around
  type.definition? there

theorem definition?_eq_some {around there : Surroundings} {base : Expr} {fields : List VarDecl} :
    base.definition? around = some (fields, there) ↔
      ∃ type place, base.declared? around = some (type, place) ∧
        type.definition? place = some (fields, there) := by
  simp only [definition?, bind, Option.bind_eq_some_iff, Prod.exists]

theorem declared?_access {around there : Surroundings} {base : Expr} {field : Ident}
    {exposed : Option Symbol} {type : TypeName} :
    (access base field exposed).declared? around = some (type, there) ↔
      ∃ fields decl, base.definition? around = some (fields, there) ∧
        fields.find? (fun decl => decl.introduction.introduces field.name) = some decl ∧
        decl.type = type := by
  simp only [declared?, definition?, bind, Option.bind_eq_some_iff, pure, Option.some.injEq,
    Prod.mk.injEq, Prod.exists]
  constructor
  · rintro ⟨outer, place, given, fields, around', found, decl, member, rfl, rfl⟩
    exact ⟨fields, decl, ⟨outer, place, given, found⟩, member, rfl⟩
  · rintro ⟨fields, decl, ⟨outer, place, given, found⟩, member, rfl⟩
    exact ⟨outer, place, given, fields, there, found, decl, member, rfl, rfl⟩

end Expr

theorem VarDecl.site_of_mem {around : Surroundings} {before : List Introduction}
    {fields : List VarDecl} {field : VarDecl} (member : field ∈ fields) :
    ∃ earlier, Site.typed around earlier field.type field.name ∈
      VarDecl.sitesOfFields around before fields := by
  induction fields generalizing before with
  | nil => exact nomatch member
  | cons first rest inductionHypothesis =>
    rcases List.mem_cons.mp member with rfl | later
    · exact ⟨before, List.mem_cons_self⟩
    · obtain ⟨earlier, among⟩ := inductionHypothesis later
      exact ⟨earlier, List.mem_cons_of_mem _ among⟩

/-- The declaration that an expression has its type from is a site of its own. -/
theorem Expr.site_of_declared? {around : Surroundings} (rooted : Rooted sites around) :
    ∀ (base : Expr) {type : TypeName} {there : Surroundings},
      base.declared? around = some (type, there) →
        Rooted sites there ∧ ∃ before name, Site.typed there before type name ∈ sites
  | .id ident, type, there, given => by
    rw [declared?] at given
    split at given
    · rename_i declared
      obtain ⟨rfl, rfl⟩ := Prod.mk.inj (Option.some.inj given)
      obtain ⟨⟨before, among⟩, inner⟩ := rooted.declared declared
      exact ⟨inner, before, _, among⟩
    · cases given
  | .access base field exposed, type, there, given => by
    obtain ⟨fields, decl, selected, member, rfl⟩ := declared?_access.mp given
    obtain ⟨outer, place, typed, found⟩ := definition?_eq_some.mp selected
    obtain ⟨name, struct, rfl, declared⟩ := TypeName.declared_of_definition? found
    obtain ⟨sited, inner⟩ := (site_of_declared? rooted base typed).1.declared declared
    obtain ⟨before, among⟩ := VarDecl.site_of_mem (List.mem_of_find?_eq_some member)
    exact ⟨inner, before, _, sited _ among⟩

theorem Site.expr_of_use {site : Site} {around : Surroundings} {mention : Use}
    (member : .use around mention ∈ site.spots) : ∃ value, site = .expr around value := by
  cases site with
  | result place type =>
    rw [spots, Option.mem_toList, Option.map_eq_some_iff] at member
    obtain ⟨_, -, other⟩ := member
    exact nomatch other
  | typed place before type name =>
    rcases List.mem_append.mp member with typeName | declared
    · rw [Option.mem_toList, Option.map_eq_some_iff] at typeName
      obtain ⟨_, -, other⟩ := typeName
      exact nomatch other
    · exact nomatch List.mem_singleton.mp declared
  | definition before name => exact nomatch List.mem_singleton.mp member
  | expr place value =>
    obtain ⟨_, -, same⟩ := List.mem_map.mp member
    obtain ⟨rfl, -⟩ := Spot.use.inj same
    exact ⟨value, rfl⟩

/-- The name in the type that an expression was declared with is a spot of the program. -/
theorem Program.spot_of_declared? (program : Program) {around there : Surroundings} {mention : Use}
    {base : Expr} {name : Ident} (located : .use around mention ∈ program.spots)
    (declared : base.declared? around = some (.struct name, there)) :
    .typeName there name ∈ program.spots := by
  obtain ⟨site, among, member⟩ := List.mem_flatMap.mp located
  obtain ⟨value, rfl⟩ := Site.expr_of_use member
  obtain ⟨-, before, ident, typed⟩ := base.site_of_declared? (program.sites_rooted _ among) declared
  exact List.mem_flatMap.mpr ⟨_, typed, List.mem_cons_self⟩

end NameBinding
