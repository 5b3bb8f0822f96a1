/-
This file proves that an analysis is the list of its spots. It is an induction along the tree in
which the table is known at every step: it is the one that the surroundings of the step give, since
what was declared before it in the innermost scope is in force and what was declared in a scope
that is closed is gone. So each step binds what the surroundings say and reports what is at fault
by them, and a whole program does so in the order of its text.
-/

import NameBinding.Proofs.Spots

namespace NameBinding

open Declarable (acceptAll isTaken)

/-! ### The table at a spot -/

namespace Surroundings

/-- The table at a place in whose scope these declarations are in force. -/
def tableWith (outer : Surroundings) (before : List Introduction) : SymbolTable :=
  ⟨Scope.ofBindings (bindingsOf before) :: outer.table.scopes⟩

/-- Declarations come into force one after the other. -/
theorem acceptAll_tableWith (outer : Surroundings) (before more : List Introduction) :
    acceptAll (outer.tableWith before) (bindingsOf more) = outer.tableWith (before ++ more) := by
  rw [tableWith, SymbolTable.acceptAll_cons, Scope.acceptAll_ofBindings, ← bindingsOf_append]
  rfl

end Surroundings

/-- A name is taken in a scope that has it. -/
theorem isTaken_scope (scope : Scope Symbol) (name : String) :
    isTaken (σ := FieldTable) scope name = (scope.find? name).isSome := by
  have located : Declarable.findLocal (σ := FieldTable) scope name = .ok (scope.find? name) := rfl
  rw [isTaken, located]
  cases scope.find? name <;> rfl

/-- A name is taken among fields if an earlier one introduces it. -/
theorem isTaken_fields (before : List Introduction) (name : String) :
    isTaken (σ := FieldTable) (Scope.ofBindings (bindingsOf before)) name =
      before.any (Introduction.introduces name) := by
  rw [isTaken_scope, Scope.find?_ofBindings, lookup_bindingsOf, Option.isSome_map,
    List.isSome_find?]

theorem isTaken_tableWith (outer : Surroundings) (before : List Introduction) (name : String) :
    isTaken (outer.tableWith before) name = before.any (Introduction.introduces name) :=
  isTaken_fields before name

/-! ### What is reported of declarations -/

theorem TypeName.check_reports (around : Surroundings) (type : TypeName) :
    (type.check around.table).trace.diagnostics =
      ((type.structName?.map (Spot.typeName around)).toList).filterMap Spot.fault? := by
  cases type with
  | struct name =>
    simp only [check, SymbolTable.definesStruct, structName?, Option.map_some, Option.toList_some,
      filterMap_cons_toList, List.filterMap_nil, List.append_nil, Spot.fault?,
      around.visible?_table]
    cases around.meaning? name.name with
    | none => rfl
    | some symbol => cases symbol <;> rfl
  | _ => rfl

/-- An error of a name that is taken, as the error of a name that was introduced before. -/
theorem Spot.toList_repeated? {σ : Type} [Declarable σ] {current : σ}
    {before : List Introduction} {name : Ident}
    (taken : isTaken current name.name = before.any (Introduction.introduces name.name)) :
    (if isTaken current name.name then [⟨.multiplyDeclared, name.pos⟩] else []) =
      (Spot.repeated? before name).toList := by
  rw [taken, Spot.repeated?]
  split <;> rfl

section

variable {σ : Type} [Declarable σ] [LawfulDeclarable σ]

/-- A variable, a formal or a field is reported for its type, and for its name if it is no void
one. -/
theorem declareTyped_reports (around : Surroundings) (before : List Introduction) (type : TypeName)
    (name : Ident) (current : σ)
    (taken : isTaken current name.name = before.any (Introduction.introduces name.name)) :
    ((declareTyped around.table type name).run current).trace.diagnostics =
      (Site.typed around before type name).spots.filterMap Spot.fault? := by
  rw [declareTyped_taken]
  by_cases void : type.isVoid = true
  · obtain rfl : type = .void := by cases type <;> first | rfl | cases void
    rfl
  · have solid : (Spot.typed before type name).fault? = Spot.repeated? before name := if_neg void
    rw [if_neg void, TypeName.check_reports, Spot.toList_repeated? taken, Site.spots,
      List.filterMap_append, filterMap_cons_toList, List.filterMap_nil, List.append_nil, solid]

end

/-- A function or a struct is reported if its name was introduced before. -/
theorem declareDefinition_reports (outer : Surroundings) (before : List Introduction) (name : Ident)
    (symbol : Symbol) (event : Option Event)
    (silent : ∀ noted, event = some noted → noted.isSilent = true) :
    ((declareDefinition name symbol event).run (outer.tableWith before)).trace.diagnostics =
      (Spot.repeated? before name).toList := by
  rw [declareDefinition_taken name symbol event silent,
    Spot.toList_repeated? (isTaken_tableWith outer before name.name)]

/-! ### Accounts of an analysis -/

/-- What an analysis met, what it left there and what it reported of it, all read off its sites. -/
structure Accounts (given found : List Visit) (reports : List Diagnostic) (sites : List Site) :
    Prop where
  given : given = (sites.flatMap Site.spots).map Spot.given
  found : found = (sites.flatMap Site.spots).map Spot.found
  reports : reports = (sites.flatMap Site.spots).filterMap Spot.fault?

namespace Accounts

theorem nil : Accounts [] [] [] [] := ⟨rfl, rfl, rfl⟩

/-- Two steps give their accounts one after the other. -/
theorem append {given found given' found' : List Visit} {reports reports' : List Diagnostic}
    {sites sites' : List Site} (first : Accounts given found reports sites)
    (second : Accounts given' found' reports' sites') :
    Accounts (given ++ given') (found ++ found') (reports ++ reports') (sites ++ sites') := by
  refine ⟨?_, ?_, ?_⟩
  · rw [first.given, second.given, List.flatMap_append, List.map_append]
  · rw [first.found, second.found, List.flatMap_append, List.map_append]
  · rw [first.reports, second.reports, List.flatMap_append, List.filterMap_append]

end Accounts

/-! ### Declarations -/

section

variable {σ : Type} [Declarable σ] [LawfulDeclarable σ]

theorem declareTyped_accounts (around : Surroundings) (before : List Introduction) (type : TypeName)
    (name : Ident) (current : σ)
    (taken : isTaken current name.name = before.any (Introduction.introduces name.name)) :
    Accounts (type.visits ++ [.ident name .declaration]) (type.visits ++ [.ident name .declaration])
      ((declareTyped around.table type name).run current).trace.diagnostics
      [.typed around before type name] := by
  refine ⟨?_, ?_, ?_⟩
  · cases type <;> rfl
  · cases type <;> rfl
  · rw [List.flatMap_singleton]
    exact declareTyped_reports around before type name current taken

end

theorem definition_accounts (before : List Introduction) (name : Ident) :
    Accounts [.ident name .declaration] [.ident name .declaration]
      (Spot.repeated? before name).toList [.definition before name] := by
  refine ⟨rfl, rfl, ?_⟩
  rw [List.flatMap_singleton, Site.spots, filterMap_cons_toList]
  exact (List.append_nil _).symm

theorem declareFields_accounts (around : Surroundings) (before : List Introduction)
    (fields : List VarDecl) :
    Accounts (fields.flatMap VarDecl.visits) (fields.flatMap VarDecl.visits)
      ((declareFields (σ := FieldTable) around.table fields).run
        (Scope.ofBindings (bindingsOf before))).trace.diagnostics
      (VarDecl.sitesOfFields around before fields) := by
  induction fields generalizing before with
  | nil => exact Accounts.nil
  | cons field rest inductionHypothesis =>
    have first := declareTyped_accounts around before field.type field.name _
      (isTaken_fields before field.name.name)
    have after : ((field.declare (σ := FieldTable) around.table).run
        (Scope.ofBindings (bindingsOf before))).value.2 =
          Scope.ofBindings (bindingsOf (before ++ [field.introduction])) := by
      rw [bindingsOf_append, ← Scope.acceptAll_ofBindings]
      exact declareTyped_after around.table field.type field.name _
    rw [declareFields, run_bind_trace, after, Trace.diagnostics_append, VarDecl.sitesOfFields,
      List.flatMap_cons]
    exact first.append (inductionHypothesis _)

/-- Formals are declared as if they stood before the declarations of the body. -/
theorem Formal.declareList_accounts (outer : Surroundings) (before later : List Introduction)
    (formals : List Formal) :
    Accounts (formals.flatMap Formal.visits) (formals.flatMap Formal.visits)
      ((Formal.declareList formals).run (outer.tableWith before)).trace.diagnostics
      (Formal.sitesOfList outer before later formals) := by
  induction formals generalizing before with
  | nil => exact Accounts.nil
  | cons formal rest inductionHypothesis =>
    have first := declareTyped_accounts
      (⟨before, formal.introduction :: rest.map Formal.introduction ++ later⟩ :: outer) before
      formal.type formal.name _ (isTaken_tableWith outer before formal.name.name)
    have after : ((declareTyped (outer.tableWith before) formal.type formal.name).run
        (outer.tableWith before)).value.2 = outer.tableWith (before ++ [formal.introduction]) := by
      rw [← outer.acceptAll_tableWith]
      exact declareTyped_after _ formal.type formal.name _
    have split : ((Formal.declareList (formal :: rest)).run (outer.tableWith before)).trace =
        ((declareTyped (outer.tableWith before) formal.type formal.name).run
            (outer.tableWith before)).trace ++
          ((Formal.declareList rest).run
            ((declareTyped (outer.tableWith before) formal.type formal.name).run
              (outer.tableWith before)).value.2).trace := rfl
    rw [split, after, Trace.diagnostics_append, Formal.sitesOfList, List.flatMap_cons]
    exact first.append (inductionHypothesis _)

/-- A struct is reported if its name was introduced before, and its fields are in either case. -/
theorem StructDecl.analyze_reports (outer : Surroundings) (before : List Introduction)
    (decl : StructDecl) :
    (decl.analyze.run (outer.tableWith before)).trace.diagnostics =
      (Spot.repeated? before decl.name).toList ++
        ((declareFields (σ := FieldTable) (outer.tableWith before) decl.fields).run
          Scope.empty).trace.diagnostics := by
  rw [StructDecl.analyze_taken,
    Spot.toList_repeated? (isTaken_tableWith outer before decl.name.name)]

theorem StructDecl.analyze_accounts (outer : Surroundings) (before later : List Introduction)
    (decl : StructDecl) :
    Accounts decl.visits decl.visits
      (decl.analyze.run (outer.tableWith before)).trace.diagnostics
      ((Decl.struct decl).sites outer before later) := by
  rw [StructDecl.analyze_reports, Decl.sites]
  exact (definition_accounts before decl.name).append
    (declareFields_accounts (⟨before, _⟩ :: outer) [] decl.fields)

theorem Expr.analyze_accounts (scope : Enclosure) (outer : Surroundings) (expr : Expr)
    (fresh : ∀ visit ∈ expr.visits, visit.isFresh = true) :
    Accounts expr.visits (expr.analyze.run (Surroundings.table (scope :: outer))).value.1.visits
      (expr.analyze.run (Surroundings.table (scope :: outer))).trace.diagnostics
      [.expr (scope :: outer) expr] := by
  have hasScope : (Surroundings.table (scope :: outer)).scopes ≠ [] := List.cons_ne_nil _ _
  have value : (expr.analyze.run (Surroundings.table (scope :: outer))).value.1 =
      (expr.resolve (Surroundings.table (scope :: outer))).value := rfl
  have trace : (expr.analyze.run (Surroundings.table (scope :: outer))).trace =
      (expr.resolve (Surroundings.table (scope :: outer))).trace := List.append_nil _
  refine ⟨?_, ?_, ?_⟩
  · rw [List.flatMap_singleton, Site.spots, List.map_map]
    exact expr.visits_eq_uses false
  · rw [value, expr.resolve_value _ hasScope fresh, expr.visits_bound _ false,
      List.flatMap_singleton, Site.spots, List.map_map, Surroundings.visible?_table]
    rfl
  · rw [trace, expr.resolve_reports _ hasScope fresh, List.flatMap_singleton, Site.spots,
      List.filterMap_map, Surroundings.visible?_table]
    rfl

theorem leaveScope_reports (table : SymbolTable) :
    (leaveScope.run table).trace.diagnostics = [] := by
  obtain ⟨scopes⟩ := table
  cases scopes <;> rfl

theorem result_accounts (around : Surroundings) (ret : TypeName) :
    Accounts ret.visits ret.visits [] [.result around ret] := by
  refine ⟨?_, ?_, ?_⟩ <;> cases ret <;> rfl

/-- A call binds the same names as a statement and as an expression. -/
theorem Stmt.call_visits (callee : Ident) (args : List Expr) (table : SymbolTable) :
    ((Stmt.call callee args).analyze.run table).value.1.visits =
      ((Expr.call callee args).analyze.run table).value.1.visits := by
  rw [Stmt.analyze]
  rfl

theorem Stmt.call_trace (callee : Ident) (args : List Expr) (table : SymbolTable) :
    ((Stmt.call callee args).analyze.run table).trace =
      ((Expr.call callee args).analyze.run table).trace := by
  simp only [Stmt.analyze, Expr.analyze, Expr.resolve, StateT.run_bind, StateT.run_get,
    StateT.run_pure, Traced.trace_bind, Traced.trace_pure, Traced.value_pure, run_lift_trace,
    run_lift_value, List.nil_append]

/-- The analysis of a statement that is made of one expression. -/
def Stmt.analyzeSingle (target : Expr) (rebuild : Expr → Stmt) : Analysis Stmt := do
  let target ← target.analyze
  return rebuild target

theorem Stmt.analyzeSingle_accounts (scope : Enclosure) (outer : Surroundings) (target : Expr)
    (rebuild : Expr → Stmt) (met : ∀ expr, (rebuild expr).visits = expr.visits)
    (fresh : ∀ visit ∈ target.visits, visit.isFresh = true) :
    Accounts target.visits
      ((analyzeSingle target rebuild).run (Surroundings.table (scope :: outer))).value.1.visits
      ((analyzeSingle target rebuild).run
        (Surroundings.table (scope :: outer))).trace.diagnostics
      [.expr (scope :: outer) target] := by
  simp only [analyzeSingle, run_bind_value, run_bind_trace, StateT.run_pure, Traced.value_pure,
    Traced.trace_pure, List.append_nil, met]
  exact target.analyze_accounts scope outer fresh

/-- The analysis of a conditional with one branch or of a loop. -/
def Stmt.analyzeGuarded (cond : Expr) (body : Block) (rebuild : Expr → Block → Stmt) :
    Analysis Stmt := do
  let cond ← cond.analyze
  enterScope
  let body ← body.analyze
  leaveScope
  return rebuild cond body

theorem Stmt.analyzeGuarded_accounts (scope : Enclosure) (outer : Surroundings) (cond : Expr)
    (body : Block) (rebuild : Expr → Block → Stmt)
    (met : ∀ cond body, (rebuild cond body).visits = cond.visits ++ body.visits)
    (fresh : ∀ visit ∈ cond.visits, visit.isFresh = true)
    (carried : Accounts body.visits
      (body.analyze.run (Surroundings.tableWith (scope :: outer) [])).value.1.visits
      (body.analyze.run (Surroundings.tableWith (scope :: outer) [])).trace.diagnostics
      (body.sites (scope :: outer) [])) :
    Accounts (cond.visits ++ body.visits)
      ((analyzeGuarded cond body rebuild).run
        (Surroundings.table (scope :: outer))).value.1.visits
      ((analyzeGuarded cond body rebuild).run
        (Surroundings.table (scope :: outer))).trace.diagnostics
      (.expr (scope :: outer) cond :: body.sites (scope :: outer) []) := by
  simp only [analyzeGuarded, run_bind_value, run_bind_trace, Expr.analyze_after, StateT.run_pure,
    Traced.value_pure, Traced.trace_pure, Trace.diagnostics_append, List.append_nil, met,
    enterScope_run, leaveScope_reports, Trace.diagnostics_scopeEntered, List.nil_append]
  exact (cond.analyze_accounts scope outer fresh).append carried

mutual

/-- The analysis of a block accounts for the sites of the block, against the table that its
surroundings give. -/
theorem Block.analyze_accounts (outer : Surroundings) (before : List Introduction) :
    ∀ block : Block, (∀ visit ∈ block.visits, visit.isFresh = true) →
      Accounts block.visits (block.analyze.run (outer.tableWith before)).value.1.visits
        (block.analyze.run (outer.tableWith before)).trace.diagnostics (block.sites outer before)
  | ⟨decls, stmts⟩, fresh => by
    rw [Block.visits, List.forall_mem_append] at fresh
    have after := Decl.analyzeList_after (outer.tableWith before) decls
    rw [outer.acceptAll_tableWith] at after
    simp only [Block.analyze, run_bind_value, run_bind_trace, after, StateT.run_pure,
      Traced.value_pure, Traced.trace_pure, Trace.diagnostics_append, List.append_nil]
    rw [Block.visits, Block.visits, Block.sites]
    exact (Decl.analyzeList_accounts outer before decls fresh.1).append
      (Stmt.analyzeList_accounts ⟨before ++ decls.map Decl.introduction, []⟩ outer stmts fresh.2)

theorem Stmt.analyze_accounts (scope : Enclosure) (outer : Surroundings) :
    ∀ stmt : Stmt, (∀ visit ∈ stmt.visits, visit.isFresh = true) →
      Accounts stmt.visits
        (stmt.analyze.run (Surroundings.table (scope :: outer))).value.1.visits
        (stmt.analyze.run (Surroundings.table (scope :: outer))).trace.diagnostics
        (stmt.sites (scope :: outer))
  | .assign lhs rhs, fresh => by
    rw [Stmt.visits, List.forall_mem_append] at fresh
    simp only [Stmt.analyze, run_bind_value, run_bind_trace, Expr.analyze_after, StateT.run_pure,
      Traced.value_pure, Traced.trace_pure, Trace.diagnostics_append, List.append_nil]
    rw [Stmt.visits, Stmt.visits, Stmt.sites]
    exact (lhs.analyze_accounts scope outer fresh.1).append
      (rhs.analyze_accounts scope outer fresh.2)
  | .postInc target, fresh => by
    rw [Stmt.visits] at fresh
    rw [Stmt.visits, Stmt.analyze, Stmt.sites]
    exact Stmt.analyzeSingle_accounts scope outer target .postInc (fun _ => by rw [Stmt.visits])
      fresh
  | .postDec target, fresh => by
    rw [Stmt.visits] at fresh
    rw [Stmt.visits, Stmt.analyze, Stmt.sites]
    exact Stmt.analyzeSingle_accounts scope outer target .postDec (fun _ => by rw [Stmt.visits])
      fresh
  | .ifThen cond body, fresh => by
    rw [Stmt.visits, List.forall_mem_append] at fresh
    rw [Stmt.visits, Stmt.analyze, Stmt.sites]
    exact Stmt.analyzeGuarded_accounts scope outer cond body .ifThen
      (fun _ _ => by rw [Stmt.visits]) fresh.1
      (Block.analyze_accounts (scope :: outer) [] body fresh.2)
  | .ifElse cond thenBranch elseBranch, fresh => by
    rw [Stmt.visits, List.forall_mem_append, List.forall_mem_append] at fresh
    -- The second branch finds the table as the first one did.
    have closed := leaveScope_body thenBranch _
      (Block.analyze_after (Surroundings.table (scope :: outer)).push thenBranch)
    simp only [Stmt.analyze, run_bind_value, run_bind_trace, Expr.analyze_after, StateT.run_pure,
      Traced.value_pure, Traced.trace_pure, Trace.diagnostics_append, List.append_nil,
      enterScope_run, leaveScope_reports, Trace.diagnostics_scopeEntered, List.nil_append, closed]
    rw [Stmt.visits, Stmt.visits, Stmt.sites, List.append_assoc, List.append_assoc]
    exact (cond.analyze_accounts scope outer fresh.1.1).append
      ((Block.analyze_accounts (scope :: outer) [] thenBranch fresh.1.2).append
        (Block.analyze_accounts (scope :: outer) [] elseBranch fresh.2))
  | .whileDo cond body, fresh => by
    rw [Stmt.visits, List.forall_mem_append] at fresh
    rw [Stmt.visits, Stmt.analyze, Stmt.sites]
    exact Stmt.analyzeGuarded_accounts scope outer cond body .whileDo
      (fun _ _ => by rw [Stmt.visits]) fresh.1
      (Block.analyze_accounts (scope :: outer) [] body fresh.2)
  | .read target, fresh => by
    rw [Stmt.visits] at fresh
    rw [Stmt.visits, Stmt.analyze, Stmt.sites]
    exact Stmt.analyzeSingle_accounts scope outer target .read (fun _ => by rw [Stmt.visits]) fresh
  | .write value, fresh => by
    rw [Stmt.visits] at fresh
    rw [Stmt.visits, Stmt.analyze, Stmt.sites]
    exact Stmt.analyzeSingle_accounts scope outer value .write (fun _ => by rw [Stmt.visits]) fresh
  | .call callee args, fresh => by
    rw [Stmt.visits] at fresh
    rw [Stmt.visits, Stmt.sites, Stmt.call_visits, Stmt.call_trace]
    exact (Expr.call callee args).analyze_accounts scope outer fresh
  | .ret none, _ => by
    simp only [Stmt.analyze, StateT.run_pure, Traced.value_pure, Traced.trace_pure]
    rw [Stmt.visits, Stmt.sites]
    exact Accounts.nil
  | .ret (some value), fresh => by
    rw [Stmt.visits] at fresh
    rw [Stmt.visits, Stmt.analyze, Stmt.sites]
    exact Stmt.analyzeSingle_accounts scope outer value (fun value => .ret (some value))
      (fun _ => by rw [Stmt.visits]) fresh

theorem Stmt.analyzeList_accounts (scope : Enclosure) (outer : Surroundings) :
    ∀ stmts : List Stmt, (∀ visit ∈ Stmt.visitsOfList stmts, visit.isFresh = true) →
      Accounts (Stmt.visitsOfList stmts)
        (Stmt.visitsOfList
          ((Stmt.analyzeList stmts).run (Surroundings.table (scope :: outer))).value.1)
        ((Stmt.analyzeList stmts).run (Surroundings.table (scope :: outer))).trace.diagnostics
        (Stmt.sitesOfList (scope :: outer) stmts)
  | [], _ => by
    simp only [Stmt.analyzeList, StateT.run_pure, Traced.value_pure, Traced.trace_pure]
    rw [Stmt.visitsOfList, Stmt.sitesOfList]
    exact Accounts.nil
  | stmt :: rest, fresh => by
    rw [Stmt.visitsOfList, List.forall_mem_append] at fresh
    simp only [Stmt.analyzeList, run_bind_value, run_bind_trace, Stmt.analyze_after,
      StateT.run_pure, Traced.value_pure, Traced.trace_pure, Trace.diagnostics_append,
      List.append_nil]
    rw [Stmt.visitsOfList, Stmt.visitsOfList, Stmt.sitesOfList]
    exact (Stmt.analyze_accounts scope outer stmt fresh.1).append
      (Stmt.analyzeList_accounts scope outer rest fresh.2)

theorem Function.analyze_accounts (outer : Surroundings) (before later : List Introduction) :
    ∀ decl : Function, (∀ visit ∈ decl.visits, visit.isFresh = true) →
      Accounts decl.visits (decl.analyze.run (outer.tableWith before)).value.1.visits
        (decl.analyze.run (outer.tableWith before)).trace.diagnostics
        (decl.sites outer before later)
  | ⟨ret, name, formals, body⟩, fresh => by
    rw [Function.visits, List.forall_mem_append] at fresh
    -- The function is in force before its scope is opened, and its formals are the first of that
    -- scope, so the body is taken up where the formals end.
    have accepted : Declarable.accept (outer.tableWith before)
        (name.name, .function (signatureOf ret formals)) =
          outer.tableWith (before ++ [.function ret name formals]) :=
      outer.acceptAll_tableWith before [.function ret name formals]
    have inner : (outer.tableWith (before ++ [.function ret name formals])).push =
        Surroundings.tableWith (⟨before ++ [.function ret name formals], later⟩ :: outer) [] := rfl
    have filled := Formal.declareList_after formals
      (Surroundings.tableWith (⟨before ++ [.function ret name formals], later⟩ :: outer) [])
    rw [Surroundings.acceptAll_tableWith] at filled
    have reported := declareDefinition_reports outer before name
      (.function (signatureOf ret formals)) (some (.declaredFunction name.name))
      (fun _ same => by cases same; rfl)
    simp only [Function.analyze_eq, run_bind_value, run_bind_trace, StateT.run_pure,
      Traced.value_pure, Traced.trace_pure, Trace.diagnostics_append, List.append_nil,
      enterScope_run, leaveScope_reports, Trace.diagnostics_scopeEntered, List.nil_append,
      declareDefinition_after, accepted, inner, filled, reported]
    have heading := (result_accounts (⟨before, .function ret name formals :: later⟩ :: outer)
      ret).append (definition_accounts before name)
    have declared := Formal.declareList_accounts
      (⟨before ++ [.function ret name formals], later⟩ :: outer) []
      (body.decls.map Decl.introduction) formals
    have carried := Block.analyze_accounts
      (⟨before ++ [.function ret name formals], later⟩ :: outer)
      (formals.map Formal.introduction) body fresh.2
    rw [Function.visits, Function.visits, Function.sites]
    simpa only [List.nil_append, List.append_assoc, List.cons_append] using
      (heading.append declared).append carried

theorem Decl.analyze_accounts (outer : Surroundings) (before later : List Introduction) :
    ∀ decl : Decl, (∀ visit ∈ decl.visits, visit.isFresh = true) →
      Accounts decl.visits (decl.analyze.run (outer.tableWith before)).value.1.visits
        (decl.analyze.run (outer.tableWith before)).trace.diagnostics
        (decl.sites outer before later)
  | .var decl, _ => by
    have declared := declareTyped_accounts (⟨before, decl.introduction :: later⟩ :: outer) before
      decl.type decl.name _ (isTaken_tableWith outer before decl.name.name)
    have value : ((Decl.var decl).analyze.run (outer.tableWith before)).value.1 = .var decl := by
      rw [Decl.analyze]
      rfl
    have trace : ((Decl.var decl).analyze.run (outer.tableWith before)).trace =
        ((declareTyped (outer.tableWith before) decl.type decl.name).run
          (outer.tableWith before)).trace := by
      rw [Decl.analyze]
      exact List.append_nil _
    rw [value, trace, Decl.visits, Decl.sites]
    exact declared
  | .func decl, fresh => by
    rw [Decl.visits] at fresh
    simp only [Decl.analyze, run_bind_value, run_bind_trace, StateT.run_pure, Traced.value_pure,
      Traced.trace_pure, List.append_nil]
    rw [Decl.visits, Decl.visits, Decl.sites]
    exact Function.analyze_accounts outer before later decl fresh
  | .struct decl, _ => by
    simp only [Decl.analyze, run_bind_value, run_bind_trace, StateT.run_pure, Traced.value_pure,
      Traced.trace_pure, List.append_nil]
    rw [Decl.visits]
    exact decl.analyze_accounts outer before later

theorem Decl.analyzeList_accounts (outer : Surroundings) (before : List Introduction) :
    ∀ decls : List Decl, (∀ visit ∈ Decl.visitsOfList decls, visit.isFresh = true) →
      Accounts (Decl.visitsOfList decls)
        (Decl.visitsOfList ((Decl.analyzeList decls).run (outer.tableWith before)).value.1)
        ((Decl.analyzeList decls).run (outer.tableWith before)).trace.diagnostics
        (Decl.sitesOfList outer before decls)
  | [], _ => by
    simp only [Decl.analyzeList, StateT.run_pure, Traced.value_pure, Traced.trace_pure]
    rw [Decl.visitsOfList, Decl.sitesOfList]
    exact Accounts.nil
  | decl :: rest, fresh => by
    rw [Decl.visitsOfList, List.forall_mem_append] at fresh
    have after := Decl.analyze_after (outer.tableWith before) decl
    rw [outer.acceptAll_tableWith] at after
    simp only [Decl.analyzeList, run_bind_value, run_bind_trace, after, StateT.run_pure,
      Traced.value_pure, Traced.trace_pure, Trace.diagnostics_append, List.append_nil]
    rw [Decl.visitsOfList, Decl.visitsOfList, Decl.sitesOfList]
    exact (Decl.analyze_accounts outer before _ decl fresh.1).append
      (Decl.analyzeList_accounts outer _ rest fresh.2)

end

/-! ### Whole programs -/

namespace Program

/-- The naming errors of a program are those of its declarations. -/
theorem check_entries (program : Program) :
    program.check.2.entries =
      ((Decl.analyzeList program.decls).run SymbolTable.new).trace.diagnostics := by
  rw [check, Trace.entries_deliver]
  exact (Trace.diagnostics_cons_silent _ _ rfl).trans (congrArg _ (List.append_nil _))

/-- The analysis of a program accounts for all that is in the program. -/
theorem check_accounts (program : Program) (fresh : program.IsFresh) :
    Accounts program.visits program.check.1.visits program.check.2.entries program.sites := by
  rw [check_entries]
  exact Decl.analyzeList_accounts [] [] program.decls fresh

/-- What each place of a program is blamed for, in the order of the text. -/
def blames (program : Program) : List (Option Diagnostic) :=
  program.spots.map Spot.fault?

theorem length_blames (program : Program) (fresh : program.IsFresh) :
    program.blames.length = program.visits.length := by
  rw [(program.check_accounts fresh).given, blames, List.length_map, List.length_map]
  rfl

/-- The naming errors are the blames. -/
theorem entries_eq_blames (program : Program) (fresh : program.IsFresh) :
    program.check.2.entries = program.blames.filterMap id := by
  rw [(program.check_accounts fresh).reports, blames, List.filterMap_map]
  rfl

/-- At every place of a program there is a spot, and what is found there is what the spot says. -/
theorem spot_of_visit (program : Program) (fresh : program.IsFresh) (index : Nat) (visit : Visit)
    (met : program.visits[index]? = some visit) :
    ∃ spot, program.spots[index]? = some spot ∧ spot.given = visit ∧
      program.check.1.visits[index]? = some spot.found ∧
      program.blames[index]? = some spot.fault? := by
  have accounts := program.check_accounts fresh
  rw [accounts.given, List.getElem?_map, Option.map_eq_some_iff] at met
  obtain ⟨spot, located, given⟩ := met
  refine ⟨spot, located, given, ?_, ?_⟩
  · rw [accounts.found, List.getElem?_map, located, Option.map_some]
  · rw [blames, List.getElem?_map, spots, located, Option.map_some]

/-- Only names are blamed, each where it stands. -/
theorem pos_of_blame (program : Program) (fresh : program.IsFresh) (index : Nat)
    (diagnostic : Diagnostic) (blamed : program.blames[index]? = some (some diagnostic)) :
    ∃ name role, program.visits[index]? = some (.ident name role) ∧
      name.pos = diagnostic.pos := by
  rw [blames, List.getElem?_map, Option.map_eq_some_iff] at blamed
  obtain ⟨spot, located, fault⟩ := blamed
  obtain ⟨name, role, given, pos⟩ := spot.pos_of_fault? diagnostic fault
  refine ⟨name, role, ?_, pos⟩
  have located : (program.sites.flatMap Site.spots)[index]? = some spot := located
  rw [(program.check_accounts fresh).given, List.getElem?_map, located, Option.map_some, given]

end Program

end NameBinding
