/-
This file changes the names and the positions of a program. Every occurrence of a name gets the name
that a function gives for it, whatever part it plays, and every position is mapped by another one;
all else stays. The places of the changed program are the changed places of the program, each with
the changed scopes around it. This is so for any two functions, since nothing on the way through a
program depends on a name or a position.
-/

import NameBinding.Proofs.Spots

namespace NameBinding

/-- New names and new positions. -/
structure Relabeling where
  name : String → String
  pos : Position → Position

/-! ### Trees -/

variable (change : Relabeling)

namespace Ident

/-- An occurrence with its name and its position changed. -/
def relabeled (ident : Ident) : Ident :=
  { ident with name := change.name ident.name, pos := change.pos ident.pos }

end Ident

namespace TypeName

/-- A type with the name of its struct changed. Keywords stay. -/
def relabeled : TypeName → TypeName
  | struct name => struct (name.relabeled change)
  | type => type

end TypeName

namespace VarDecl

/-- A variable or a field with its type and its name changed. -/
def relabeled (decl : VarDecl) : VarDecl :=
  { decl with type := decl.type.relabeled change, name := decl.name.relabeled change }

end VarDecl

namespace Formal

/-- A formal with its type and its name changed. -/
def relabeled (formal : Formal) : Formal where
  type := formal.type.relabeled change
  name := formal.name.relabeled change

end Formal

namespace StructDecl

/-- A struct with its name and its fields changed. -/
def relabeled (decl : StructDecl) : StructDecl where
  name := decl.name.relabeled change
  fields := decl.fields.map (VarDecl.relabeled change)

end StructDecl

mutual

/-- An expression with its names and positions changed. -/
def Expr.relabeled : Expr → Expr
  | .truth value pos => .truth value (change.pos pos)
  | .id ident => .id (ident.relabeled change)
  | .intLit value pos => .intLit value (change.pos pos)
  | .strLit value pos => .strLit value (change.pos pos)
  | .access base field exposed => .access base.relabeled (field.relabeled change) exposed
  | .assign lhs rhs => .assign lhs.relabeled rhs.relabeled
  | .call callee args => .call (callee.relabeled change) (Expr.relabeledList args)
  | .unary op operand => .unary op operand.relabeled
  | .binary op lhs rhs => .binary op lhs.relabeled rhs.relabeled

/-- Expressions with their names and positions changed. -/
def Expr.relabeledList : List Expr → List Expr
  | [] => []
  | expr :: rest => expr.relabeled :: Expr.relabeledList rest

end

mutual

/-- A block with its names and positions changed. -/
def Block.relabeled : Block → Block
  | ⟨decls, stmts⟩ => ⟨Decl.relabeledList decls, Stmt.relabeledList stmts⟩

/-- A statement with its names and positions changed. -/
def Stmt.relabeled : Stmt → Stmt
  | .assign lhs rhs => .assign (lhs.relabeled change) (rhs.relabeled change)
  | .postInc target => .postInc (target.relabeled change)
  | .postDec target => .postDec (target.relabeled change)
  | .ifThen cond body => .ifThen (cond.relabeled change) body.relabeled
  | .ifElse cond thenBranch elseBranch =>
    .ifElse (cond.relabeled change) thenBranch.relabeled elseBranch.relabeled
  | .whileDo cond body => .whileDo (cond.relabeled change) body.relabeled
  | .read target => .read (target.relabeled change)
  | .write value => .write (value.relabeled change)
  | .call callee args => .call (callee.relabeled change) (Expr.relabeledList change args)
  | .ret none => .ret none
  | .ret (some value) => .ret (some (value.relabeled change))

/-- Statements with their names and positions changed. -/
def Stmt.relabeledList : List Stmt → List Stmt
  | [] => []
  | stmt :: rest => stmt.relabeled :: Stmt.relabeledList rest

/-- A function with its names and positions changed. -/
def Function.relabeled : Function → Function
  | ⟨ret, name, formals, body⟩ =>
    ⟨ret.relabeled change, name.relabeled change, formals.map (Formal.relabeled change),
      body.relabeled⟩

/-- A declaration with its names and positions changed. -/
def Decl.relabeled : Decl → Decl
  | .var decl => .var (decl.relabeled change)
  | .func decl => .func decl.relabeled
  | .struct decl => .struct (decl.relabeled change)

/-- Declarations with their names and positions changed. -/
def Decl.relabeledList : List Decl → List Decl
  | [] => []
  | decl :: rest => decl.relabeled :: Decl.relabeledList rest

end

/-- A program with its names and positions changed. -/
def Program.relabeled (program : Program) : Program :=
  ⟨Decl.relabeledList change program.decls⟩

/-- An error with its position changed. -/
def Diagnostic.relabeled (diagnostic : Diagnostic) : Diagnostic :=
  { diagnostic with pos := change.pos diagnostic.pos }

/-! ### Places -/

/-- A thing met on the way with its names and positions changed. -/
def Visit.relabeled : Visit → Visit
  | ident occurrence role => ident (occurrence.relabeled change) role
  | access base field exposed => access (base.relabeled change) (field.relabeled change) exposed

/-- A use with its names and positions changed. -/
def Use.relabeled : Use → Use
  | reference ident isBase => reference (ident.relabeled change) isBase
  | member base field isBase => member (base.relabeled change) (field.relabeled change) isBase
  | access base field exposed => access (base.relabeled change) (field.relabeled change) exposed

/-- What is introduced with its names and positions changed. -/
def Introduction.relabeled : Introduction → Introduction
  | typed type name => typed (type.relabeled change) (name.relabeled change)
  | function ret name formals =>
    function (ret.relabeled change) (name.relabeled change) (formals.map (Formal.relabeled change))
  | struct name fields => struct (name.relabeled change) (fields.map (VarDecl.relabeled change))

/-- A scope with its declarations changed. -/
def Enclosure.relabeled (scope : Enclosure) : Enclosure where
  inForce := scope.inForce.map (Introduction.relabeled change)
  later := scope.later.map (Introduction.relabeled change)

/-- Scopes with their declarations changed. -/
def Surroundings.relabeled (around : Surroundings) : Surroundings :=
  around.map (Enclosure.relabeled change)

/-- A place with its names and positions changed. -/
def Spot.relabeled : Spot → Spot
  | resultType around name => resultType (around.relabeled change) (name.relabeled change)
  | typeName around name => typeName (around.relabeled change) (name.relabeled change)
  | typed before type name =>
    typed (before.map (Introduction.relabeled change)) (type.relabeled change)
      (name.relabeled change)
  | definition before name =>
    definition (before.map (Introduction.relabeled change)) (name.relabeled change)
  | use around mention => use (around.relabeled change) (mention.relabeled change)

/-- A site with its names and positions changed. -/
def Site.relabeled : Site → Site
  | result around type => result (around.relabeled change) (type.relabeled change)
  | typed around before type name =>
    typed (around.relabeled change) (before.map (Introduction.relabeled change))
      (type.relabeled change) (name.relabeled change)
  | definition before name =>
    definition (before.map (Introduction.relabeled change)) (name.relabeled change)
  | expr around value => expr (around.relabeled change) (value.relabeled change)

/-! ### What is met -/

theorem TypeName.visits_relabeled (type : TypeName) :
    (type.relabeled change).visits = type.visits.map (Visit.relabeled change) := by
  cases type <;> rfl

theorem VarDecl.visits_relabeled (decl : VarDecl) :
    (decl.relabeled change).visits = decl.visits.map (Visit.relabeled change) := by
  rw [visits, visits, List.map_append, ← TypeName.visits_relabeled]
  rfl

theorem Formal.visits_relabeled (formal : Formal) :
    (formal.relabeled change).visits = formal.visits.map (Visit.relabeled change) := by
  rw [visits, visits, List.map_append, ← TypeName.visits_relabeled]
  rfl

theorem StructDecl.visits_relabeled (decl : StructDecl) :
    (decl.relabeled change).visits = decl.visits.map (Visit.relabeled change) := by
  rw [visits, visits, List.map_cons, List.map_flatMap, relabeled, List.flatMap_map]
  simp only [VarDecl.visits_relabeled, Visit.relabeled]

mutual

theorem Expr.uses_relabeled (isBase : Bool) : ∀ expr : Expr,
    (expr.relabeled change).uses isBase = (expr.uses isBase).map (Use.relabeled change)
  | .truth _ _ | .id _ | .intLit _ _ | .strLit _ _ => rfl
  | .access base field exposed => by
    rw [Expr.relabeled, Expr.uses, Expr.uses, Expr.uses_relabeled true base, List.map_append]
    rfl
  | .assign lhs rhs | .binary _ lhs rhs => by
    rw [Expr.relabeled, Expr.uses, Expr.uses, Expr.uses_relabeled false lhs,
      Expr.uses_relabeled false rhs, List.map_append]
  | .call callee args => by
    rw [Expr.relabeled, Expr.uses, Expr.uses, Expr.usesOfList_relabeled args]
    rfl
  | .unary _ operand => by
    rw [Expr.relabeled, Expr.uses, Expr.uses, Expr.uses_relabeled false operand]

theorem Expr.usesOfList_relabeled : ∀ exprs : List Expr,
    Expr.usesOfList (Expr.relabeledList change exprs) =
      (Expr.usesOfList exprs).map (Use.relabeled change)
  | [] => rfl
  | expr :: rest => by
    rw [Expr.relabeledList, Expr.usesOfList, Expr.usesOfList, Expr.uses_relabeled false expr,
      Expr.usesOfList_relabeled rest, List.map_append]

end

theorem Use.given_relabeled (mention : Use) :
    (mention.relabeled change).given = mention.given.relabeled change := by
  cases mention <;> rfl

theorem Expr.visits_relabeled (expr : Expr) :
    (expr.relabeled change).visits = expr.visits.map (Visit.relabeled change) := by
  rw [Expr.visits_eq_uses false, Expr.visits_eq_uses false, Expr.uses_relabeled, List.map_map,
    List.map_map]
  exact List.map_congr_left fun mention _ => mention.given_relabeled change

theorem Expr.visitsOfList_relabeled (exprs : List Expr) :
    Expr.visitsOfList (Expr.relabeledList change exprs) =
      (Expr.visitsOfList exprs).map (Visit.relabeled change) := by
  rw [Expr.visitsOfList_eq_uses, Expr.visitsOfList_eq_uses, Expr.usesOfList_relabeled,
    List.map_map, List.map_map]
  exact List.map_congr_left fun mention _ => mention.given_relabeled change

mutual

theorem Block.visits_relabeled : ∀ block : Block,
    (block.relabeled change).visits = block.visits.map (Visit.relabeled change)
  | ⟨decls, stmts⟩ => by
    rw [Block.relabeled, Block.visits, Block.visits, Decl.visitsOfList_relabeled decls,
      Stmt.visitsOfList_relabeled stmts, List.map_append]

theorem Stmt.visits_relabeled : ∀ stmt : Stmt,
    (stmt.relabeled change).visits = stmt.visits.map (Visit.relabeled change)
  | .assign lhs rhs => by
    rw [Stmt.relabeled, Stmt.visits, Stmt.visits, lhs.visits_relabeled, rhs.visits_relabeled,
      List.map_append]
  | .postInc expr | .postDec expr | .read expr | .write expr | .ret (some expr) => by
    rw [Stmt.relabeled, Stmt.visits, Stmt.visits, expr.visits_relabeled]
  | .ifThen cond body | .whileDo cond body => by
    rw [Stmt.relabeled, Stmt.visits, Stmt.visits, cond.visits_relabeled,
      Block.visits_relabeled body, List.map_append]
  | .ifElse cond thenBranch elseBranch => by
    rw [Stmt.relabeled, Stmt.visits, Stmt.visits, cond.visits_relabeled,
      Block.visits_relabeled thenBranch, Block.visits_relabeled elseBranch, List.map_append,
      List.map_append]
  | .call callee args => by
    rw [Stmt.relabeled, Stmt.visits, Stmt.visits, Expr.visitsOfList_relabeled]
    rfl
  | .ret none => by rw [Stmt.relabeled, Stmt.visits]; rfl

theorem Stmt.visitsOfList_relabeled : ∀ stmts : List Stmt,
    Stmt.visitsOfList (Stmt.relabeledList change stmts) =
      (Stmt.visitsOfList stmts).map (Visit.relabeled change)
  | [] => by rw [Stmt.relabeledList, Stmt.visitsOfList]; rfl
  | stmt :: rest => by
    rw [Stmt.relabeledList, Stmt.visitsOfList, Stmt.visitsOfList, Stmt.visits_relabeled stmt,
      Stmt.visitsOfList_relabeled rest, List.map_append]

theorem Function.visits_relabeled : ∀ decl : Function,
    (decl.relabeled change).visits = decl.visits.map (Visit.relabeled change)
  | ⟨ret, name, formals, body⟩ => by
    simp only [Function.relabeled, Function.visits, TypeName.visits_relabeled,
      Block.visits_relabeled body, List.flatMap_map, Formal.visits_relabeled, List.map_append,
      List.map_cons, List.map_flatMap, Visit.relabeled]

theorem Decl.visits_relabeled : ∀ decl : Decl,
    (decl.relabeled change).visits = decl.visits.map (Visit.relabeled change)
  | .var decl => by rw [Decl.relabeled, Decl.visits, Decl.visits, decl.visits_relabeled]
  | .func decl => by
    rw [Decl.relabeled, Decl.visits, Decl.visits, Function.visits_relabeled decl]
  | .struct decl => by rw [Decl.relabeled, Decl.visits, Decl.visits, decl.visits_relabeled]

theorem Decl.visitsOfList_relabeled : ∀ decls : List Decl,
    Decl.visitsOfList (Decl.relabeledList change decls) =
      (Decl.visitsOfList decls).map (Visit.relabeled change)
  | [] => by rw [Decl.relabeledList, Decl.visitsOfList]; rfl
  | decl :: rest => by
    rw [Decl.relabeledList, Decl.visitsOfList, Decl.visitsOfList, Decl.visits_relabeled decl,
      Decl.visitsOfList_relabeled rest, List.map_append]

end

/-- A program that is changed is as fresh as it was. -/
theorem Program.IsFresh.relabeled {program : Program} (fresh : program.IsFresh) :
    (program.relabeled change).IsFresh := by
  have visits : (program.relabeled change).visits = program.visits.map (Visit.relabeled change) :=
    Decl.visitsOfList_relabeled change program.decls
  intro visit met
  rw [visits] at met
  obtain ⟨original, within, rfl⟩ := List.mem_map.mp met
  have unbound := fresh original within
  cases original with
  | ident occurrence role => exact unbound
  | access base field exposed => exact unbound

/-! ### What decides about a place -/

theorem Site.spots_relabeled (site : Site) :
    (site.relabeled change).spots = site.spots.map (Spot.relabeled change) := by
  cases site with
  | result around type => cases type <;> rfl
  | typed around before type name => cases type <;> rfl
  | definition before name => rfl
  | expr around value =>
    rw [relabeled, spots, spots, Expr.uses_relabeled, List.map_map, List.map_map]
    rfl

/-- One more declaration in force, before or after the change. -/
theorem Introduction.relabeled_concat (before : List Introduction) (last : Introduction) :
    before.map (Introduction.relabeled change) ++ [last.relabeled change] =
      (before ++ [last]).map (Introduction.relabeled change) := by
  rw [List.map_append, List.map_singleton]

theorem Decl.introduction_relabeled (decl : Decl) :
    (decl.relabeled change).introduction = decl.introduction.relabeled change := by
  cases decl with
  | func decl => cases decl; rfl
  | _ => rfl

theorem Decl.introductions_relabeled (decls : List Decl) :
    (Decl.relabeledList change decls).map Decl.introduction =
      (decls.map Decl.introduction).map (Introduction.relabeled change) := by
  induction decls with
  | nil => rfl
  | cons decl rest inductionHypothesis =>
    rw [Decl.relabeledList, List.map_cons, List.map_cons, List.map_cons, inductionHypothesis,
      Decl.introduction_relabeled]

theorem Formal.introductions_relabeled (formals : List Formal) :
    (formals.map (Formal.relabeled change)).map Formal.introduction =
      (formals.map Formal.introduction).map (Introduction.relabeled change) := by
  rw [List.map_map, List.map_map]
  rfl

theorem VarDecl.sitesOfFields_relabeled (around : Surroundings) (before : List Introduction)
    (fields : List VarDecl) :
    VarDecl.sitesOfFields (around.relabeled change) (before.map (Introduction.relabeled change))
        (fields.map (VarDecl.relabeled change)) =
      (VarDecl.sitesOfFields around before fields).map (Site.relabeled change) := by
  induction fields generalizing before with
  | nil => rfl
  | cons field rest inductionHypothesis =>
    have next :
        before.map (Introduction.relabeled change) ++ [(field.relabeled change).introduction] =
          (before ++ [field.introduction]).map (Introduction.relabeled change) :=
      Introduction.relabeled_concat change before field.introduction
    rw [List.map_cons, sitesOfFields, sitesOfFields, List.map_cons, next, inductionHypothesis]
    rfl

theorem Formal.sitesOfList_relabeled (outer : Surroundings) (before later : List Introduction)
    (formals : List Formal) :
    Formal.sitesOfList (outer.relabeled change) (before.map (Introduction.relabeled change))
        (later.map (Introduction.relabeled change)) (formals.map (Formal.relabeled change)) =
      (Formal.sitesOfList outer before later formals).map (Site.relabeled change) := by
  induction formals generalizing before with
  | nil => rfl
  | cons formal rest inductionHypothesis =>
    have next :
        before.map (Introduction.relabeled change) ++ [(formal.relabeled change).introduction] =
          (before ++ [formal.introduction]).map (Introduction.relabeled change) :=
      Introduction.relabeled_concat change before formal.introduction
    have around : (⟨before.map (Introduction.relabeled change),
        (formal.relabeled change).introduction ::
          (rest.map (Formal.relabeled change)).map Formal.introduction ++
            later.map (Introduction.relabeled change)⟩ :: outer.relabeled change : Surroundings) =
        Surroundings.relabeled change
          (⟨before, formal.introduction :: rest.map Formal.introduction ++ later⟩ :: outer) := by
      rw [Formal.introductions_relabeled, List.cons_append, ← List.map_append]
      rfl
    rw [List.map_cons, sitesOfList, sitesOfList, List.map_cons, next, inductionHypothesis, around]
    rfl

mutual

theorem Block.sites_relabeled (outer : Surroundings) (before : List Introduction) :
    ∀ block : Block,
      (block.relabeled change).sites (outer.relabeled change)
          (before.map (Introduction.relabeled change)) =
        (block.sites outer before).map (Site.relabeled change)
  | ⟨decls, stmts⟩ => by
    have around : (⟨before.map (Introduction.relabeled change) ++
        (Decl.relabeledList change decls).map Decl.introduction, []⟩ ::
          outer.relabeled change : Surroundings) =
        Surroundings.relabeled change (⟨before ++ decls.map Decl.introduction, []⟩ :: outer) := by
      rw [Decl.introductions_relabeled, ← List.map_append]
      rfl
    rw [Block.relabeled, Block.sites, Block.sites, around, Decl.sitesOfList_relabeled,
      Stmt.sitesOfList_relabeled, List.map_append]

theorem Stmt.sites_relabeled (around : Surroundings) : ∀ stmt : Stmt,
    (stmt.relabeled change).sites (around.relabeled change) =
      (stmt.sites around).map (Site.relabeled change)
  | .assign _ _ | .postInc _ | .postDec _ | .read _ | .write _ | .call _ _ | .ret none
  | .ret (some _) => by
    rw [Stmt.relabeled, Stmt.sites, Stmt.sites]
    rfl
  | .ifThen cond body | .whileDo cond body => by
    have inner := Block.sites_relabeled around [] body
    rw [Stmt.relabeled, Stmt.sites, Stmt.sites, List.map_cons, ← inner]
    rfl
  | .ifElse cond thenBranch elseBranch => by
    have first := Block.sites_relabeled around [] thenBranch
    have second := Block.sites_relabeled around [] elseBranch
    rw [Stmt.relabeled, Stmt.sites, Stmt.sites, List.map_cons, List.map_append, ← first, ← second]
    rfl

theorem Stmt.sitesOfList_relabeled (around : Surroundings) : ∀ stmts : List Stmt,
    Stmt.sitesOfList (around.relabeled change) (Stmt.relabeledList change stmts) =
      (Stmt.sitesOfList around stmts).map (Site.relabeled change)
  | [] => by rw [Stmt.relabeledList, Stmt.sitesOfList, Stmt.sitesOfList]; rfl
  | stmt :: rest => by
    rw [Stmt.relabeledList, Stmt.sitesOfList, Stmt.sitesOfList, Stmt.sites_relabeled,
      Stmt.sitesOfList_relabeled, List.map_append]

theorem Function.sites_relabeled (outer : Surroundings) (before later : List Introduction) :
    ∀ decl : Function,
      (decl.relabeled change).sites (outer.relabeled change)
          (before.map (Introduction.relabeled change)) (later.map (Introduction.relabeled change)) =
        (decl.sites outer before later).map (Site.relabeled change)
  | ⟨ret, name, formals, body⟩ => by
    have around : (⟨before.map (Introduction.relabeled change) ++
        [.function (ret.relabeled change) (name.relabeled change)
          (formals.map (Formal.relabeled change))],
          later.map (Introduction.relabeled change)⟩ :: outer.relabeled change : Surroundings) =
        Surroundings.relabeled change
          (⟨before ++ [.function ret name formals], later⟩ :: outer) := by
      show _ = Enclosure.relabeled change _ :: _
      rw [Enclosure.relabeled, ← Introduction.relabeled_concat]
      rfl
    have declared : (body.relabeled change).decls.map Decl.introduction =
        (body.decls.map Decl.introduction).map (Introduction.relabeled change) := by
      cases body
      exact Decl.introductions_relabeled change _
    have heading := Formal.sitesOfList_relabeled change
      (⟨before ++ [.function ret name formals], later⟩ :: outer) []
      (body.decls.map Decl.introduction) formals
    have carried := Block.sites_relabeled
      (⟨before ++ [.function ret name formals], later⟩ :: outer)
      (formals.map Formal.introduction) body
    rw [Function.relabeled, Function.sites, Function.sites, around, declared,
      Formal.introductions_relabeled, carried, List.map_cons, List.map_cons, List.map_append,
      ← heading]
    rfl

theorem Decl.sites_relabeled (outer : Surroundings) (before later : List Introduction) :
    ∀ decl : Decl,
      (decl.relabeled change).sites (outer.relabeled change)
          (before.map (Introduction.relabeled change)) (later.map (Introduction.relabeled change)) =
        (decl.sites outer before later).map (Site.relabeled change)
  | .var decl => by
    rw [Decl.relabeled, Decl.sites, Decl.sites]
    rfl
  | .func decl => by
    rw [Decl.relabeled, Decl.sites, Decl.sites, Function.sites_relabeled]
  | .struct decl => by
    have fields := VarDecl.sitesOfFields_relabeled change
      (⟨before, .struct decl.name decl.fields :: later⟩ :: outer) [] decl.fields
    rw [Decl.relabeled, Decl.sites, Decl.sites, List.map_cons, ← fields]
    rfl

theorem Decl.sitesOfList_relabeled (outer : Surroundings) (before : List Introduction) :
    ∀ decls : List Decl,
      Decl.sitesOfList (outer.relabeled change) (before.map (Introduction.relabeled change))
          (Decl.relabeledList change decls) =
        (Decl.sitesOfList outer before decls).map (Site.relabeled change)
  | [] => by rw [Decl.relabeledList, Decl.sitesOfList, Decl.sitesOfList]; rfl
  | decl :: rest => by
    rw [Decl.relabeledList, Decl.sitesOfList, Decl.sitesOfList, Decl.introduction_relabeled,
      Introduction.relabeled_concat, Decl.introductions_relabeled, Decl.sites_relabeled,
      Decl.sitesOfList_relabeled, List.map_append]

end

/-- The places of a changed program are the changed places of the program. -/
theorem Program.spots_relabeled (program : Program) :
    (program.relabeled change).spots = program.spots.map (Spot.relabeled change) := by
  have sites : (program.relabeled change).sites = program.sites.map (Site.relabeled change) :=
    Decl.sitesOfList_relabeled change [] [] program.decls
  rw [spots, sites, List.flatMap_map, spots, List.map_flatMap]
  simp only [Site.spots_relabeled]

end NameBinding
