/-
This file goes through a program as a reader of its text does, with the scopes around each place
and the declarations that are in force there. The places are the names and the accesses of the
program in the order of the text, and what an analysis makes of a place and what it reports of it
are said place by place, without a table and without a run. The scopes are those of the program, of
each function, of the body of each loop or conditional and of each of two branches; a function has
one for its formals and its body. A function is in force from its formals on, and any other
declaration from its end on.
-/

import NameBinding.Proofs.Tables
import NameBinding.Proofs.Uses

namespace NameBinding

/-! ### Places -/

/-- A name or an access in a program, with what decides about it. -/
inductive Spot
  /-- The name of the struct type that a function returns, and the scopes around it. -/
  | resultType (around : Surroundings) (name : Ident)
  /-- The name of the struct type of a variable, a formal or a field, and the scopes around it. -/
  | typeName (around : Surroundings) (name : Ident)
  /-- The name of a variable, a formal or a field, with the declarations before it in its scope. -/
  | typed (before : List Introduction) (type : TypeName) (name : Ident)
  /-- The name of a function or of a struct, with the declarations before it in its scope. -/
  | definition (before : List Introduction) (name : Ident)
  /-- A name or an access in an expression, and the scopes around it. -/
  | use (around : Surroundings) (mention : Use)

namespace Spot

/-- What stands at a place before an analysis. -/
def given : Spot → Visit
  | resultType _ name => .ident name .typeName
  | typeName _ name => .ident name .typeName
  | typed _ _ name => .ident name .declaration
  | definition _ name => .ident name .declaration
  | use _ mention => mention.given

/-- What stands at a place after an analysis. Only uses are bound. -/
def found : Spot → Visit
  | use around mention => mention.found around.meaning?
  | spot => spot.given

/-- The error that a name is blamed for if it was introduced before in its scope. -/
def repeated? (before : List Introduction) (name : Ident) : Option Diagnostic :=
  if before.any (Introduction.introduces name.name) then some ⟨.multiplyDeclared, name.pos⟩
  else none

/-- The error that a place is blamed for. -/
def fault? : Spot → Option Diagnostic
  | resultType _ _ => none
  | typeName around name =>
    if ((around.meaning? name.name).bind Symbol.fields?).isSome then none
    else some ⟨.invalidStructType, name.pos⟩
  | typed before type name =>
    if type.isVoid then some ⟨.nonFunctionVoid, name.pos⟩ else repeated? before name
  | definition before name => repeated? before name
  | use around mention => mention.fault? around.meaning?

theorem repeated?_eq_some (before : List Introduction) (name : Ident) (diagnostic : Diagnostic) :
    repeated? before name = some diagnostic ↔
      (∃ earlier ∈ before, earlier.introduces name.name = true) ∧
        diagnostic = ⟨.multiplyDeclared, name.pos⟩ := by
  rw [repeated?, Option.ite_none_right_eq_some, List.any_eq_true, Option.some_inj, eq_comm]

/-- A place at fault is a name, and it is blamed where it stands. -/
theorem pos_of_fault? (spot : Spot) (diagnostic : Diagnostic)
    (blamed : spot.fault? = some diagnostic) :
    ∃ name role, spot.given = .ident name role ∧ name.pos = diagnostic.pos := by
  cases spot with
  | resultType around name => cases blamed
  | typeName around name =>
    rw [fault?, Option.ite_none_left_eq_some] at blamed
    cases blamed.2
    exact ⟨name, .typeName, rfl, rfl⟩
  | typed before type name =>
    refine ⟨name, .declaration, rfl, ?_⟩
    simp only [fault?] at blamed
    split at blamed
    · cases blamed
      rfl
    · cases ((repeated?_eq_some before name diagnostic).mp blamed).2
      rfl
  | definition before name =>
    cases ((repeated?_eq_some before name diagnostic).mp blamed).2
    exact ⟨name, .declaration, rfl, rfl⟩
  | use around mention => exact mention.pos_of_fault? around.meaning? diagnostic blamed

end Spot

/-! ### Sites -/

/-- A part of a program that is taken up at once, with what decides about it. -/
inductive Site
  /-- The type that a function returns, and the scopes around it. -/
  | result (around : Surroundings) (type : TypeName)
  /-- A variable, a formal or a field, with the scopes around it and the declarations before it in
  its own scope. -/
  | typed (around : Surroundings) (before : List Introduction) (type : TypeName) (name : Ident)
  /-- The name of a function or of a struct, with the declarations before it in its scope. -/
  | definition (before : List Introduction) (name : Ident)
  /-- An expression, and the scopes around it. -/
  | expr (around : Surroundings) (value : Expr)

/-- The name in a type that is that of a struct. -/
def TypeName.structName? : TypeName → Option Ident
  | struct name => some name
  | _ => none

namespace Site

/-- The spots of a site. -/
def spots : Site → List Spot
  | result around type => (type.structName?.map (Spot.resultType around)).toList
  | typed around before type name =>
    (type.structName?.map (Spot.typeName around)).toList ++ [.typed before type name]
  | definition before name => [.definition before name]
  | expr around value => (value.uses false).map (Spot.use around)

end Site

/-- The sites of fields, which come after other fields of the same struct. -/
def VarDecl.sitesOfFields (around : Surroundings) (before : List Introduction) :
    List VarDecl → List Site
  | [] => []
  | field :: rest =>
    .typed around before field.type field.name ::
      VarDecl.sitesOfFields around (before ++ [field.introduction]) rest

/-- The sites of formals, which come after other formals and before the declarations of the body. -/
def Formal.sitesOfList (outer : Surroundings) (before later : List Introduction) :
    List Formal → List Site
  | [] => []
  | formal :: rest =>
    .typed (⟨before, formal.introduction :: rest.map Formal.introduction ++ later⟩ :: outer) before
        formal.type formal.name ::
      Formal.sitesOfList outer (before ++ [formal.introduction]) later rest

mutual

/-- The sites of a block whose scope has some declarations before it. -/
def Block.sites (outer : Surroundings) (before : List Introduction) : Block → List Site
  | ⟨decls, stmts⟩ =>
    Decl.sitesOfList outer before decls ++
      Stmt.sitesOfList (⟨before ++ decls.map Decl.introduction, []⟩ :: outer) stmts

/-- The sites of a statement. The body of a branch or of a loop has a scope of its own. -/
def Stmt.sites (around : Surroundings) : Stmt → List Site
  | .assign lhs rhs => [.expr around lhs, .expr around rhs]
  | .postInc target => [.expr around target]
  | .postDec target => [.expr around target]
  | .ifThen cond body => .expr around cond :: body.sites around []
  | .ifElse cond thenBranch elseBranch =>
    .expr around cond :: (thenBranch.sites around [] ++ elseBranch.sites around [])
  | .whileDo cond body => .expr around cond :: body.sites around []
  | .read target => [.expr around target]
  | .write value => [.expr around value]
  | .call callee args => [.expr around (.call callee args)]
  | .ret none => []
  | .ret (some value) => [.expr around value]

/-- The sites of statements, one after the other. -/
def Stmt.sitesOfList (around : Surroundings) : List Stmt → List Site
  | [] => []
  | stmt :: rest => stmt.sites around ++ Stmt.sitesOfList around rest

/-- The sites of a function. It is in force from its formals on, and they share a scope with the
declarations of the body. -/
def Function.sites (outer : Surroundings) (before later : List Introduction) : Function → List Site
  | ⟨ret, name, formals, body⟩ =>
    .result (⟨before, .function ret name formals :: later⟩ :: outer) ret ::
      .definition before name ::
      (Formal.sitesOfList (⟨before ++ [.function ret name formals], later⟩ :: outer) []
          (body.decls.map Decl.introduction) formals ++
        body.sites (⟨before ++ [.function ret name formals], later⟩ :: outer)
          (formals.map Formal.introduction))

/-- The sites of a declaration. A variable or a struct is not in force in itself. -/
def Decl.sites (outer : Surroundings) (before later : List Introduction) : Decl → List Site
  | .var decl =>
    [.typed (⟨before, decl.introduction :: later⟩ :: outer) before decl.type decl.name]
  | .func decl => decl.sites outer before later
  | .struct decl =>
    .definition before decl.name ::
      VarDecl.sitesOfFields (⟨before, .struct decl.name decl.fields :: later⟩ :: outer) []
        decl.fields

/-- The sites of declarations that come after others of the same scope and end it. -/
def Decl.sitesOfList (outer : Surroundings) (before : List Introduction) : List Decl → List Site
  | [] => []
  | decl :: rest =>
    decl.sites outer before (rest.map Decl.introduction) ++
      Decl.sitesOfList outer (before ++ [decl.introduction]) rest

end

namespace Program

/-- The sites of a program in the order of the text. -/
def sites (program : Program) : List Site :=
  Decl.sitesOfList [] [] program.decls

/-- The spots of a program in the order of the text. -/
def spots (program : Program) : List Spot :=
  program.sites.flatMap Site.spots

/-- Whether no symbol was found yet for anything in a program. -/
def IsFresh (program : Program) : Prop :=
  ∀ visit ∈ program.visits, visit.isFresh = true

instance (program : Program) : Decidable program.IsFresh :=
  inferInstanceAs (Decidable (∀ visit ∈ program.visits, visit.isFresh = true))

end Program

end NameBinding
