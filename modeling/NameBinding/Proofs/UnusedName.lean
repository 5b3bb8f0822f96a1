/-
This file proves that an analysis does not look at a name that it does not meet. If a name occurs
nowhere in what is analysed, and no symbol of the table leads to it, then the table can as well be
without it: the same symbols are found, the same errors are reported, and the tables that are left
behind differ in that name again. So nothing depends on how many names a scope has, on where in a
scope a name stands, or on which one was declared last.
-/

import NameBinding.Proofs.WithoutName

namespace NameBinding

/-! ### Steps that are not affected by a name -/

section

variable {α α' β β' : Type}

/-- Whether a step with a name in its table corresponds to one without it: their results correspond,
they report the same, and the tables that they leave differ in that name only, to which no symbol
leads. -/
structure Weakens (name : String) (related : α → α' → Prop) (outcome : Traced (α × SymbolTable))
    (extended : Traced (α' × SymbolTable)) : Prop where
  value : related outcome.value.1 extended.value.1
  reports : extended.trace.diagnostics = outcome.trace.diagnostics
  table : extended.value.2.without name = outcome.value.2
  avoids : extended.value.2.Avoids name

/-- Whether it does not matter for a step if a name is in its table. -/
def Ignores (name : String) (step : Analysis α) : Prop :=
  ∀ table : SymbolTable, table.Avoids name →
    Weakens name Eq (step.run (table.without name)) (step.run table)

variable {name : String}

/-- Steps that correspond one after the other. The second ones start from tables that differ in the
name only, as the first ones did. -/
theorem Weakens.bind {source : α → α' → Prop} {target : β → β' → Prop} {first : Analysis α}
    {first' : Analysis α'} {next : α → Analysis β} {next' : α' → Analysis β'}
    {table table' : SymbolTable}
    (start : Weakens name source (first.run table) (first'.run table'))
    (rest : ∀ value value' reached, source value value' → reached.Avoids name →
      Weakens name target ((next value).run (reached.without name)) ((next' value').run reached)) :
    Weakens name target ((first >>= next).run table) ((first' >>= next').run table') := by
  have after := rest _ _ _ start.value start.avoids
  rw [start.table] at after
  refine ⟨after.value, ?_, after.table, after.avoids⟩
  rw [run_bind_trace, run_bind_trace, Trace.diagnostics_append, Trace.diagnostics_append,
    start.reports, after.reports]

theorem Weakens.pure {related : α → α' → Prop} {value : α} {value' : α'} {table : SymbolTable}
    (same : related value value') (avoids : table.Avoids name) :
    Weakens name related ((Pure.pure value : Analysis α).run (table.without name))
      ((Pure.pure value' : Analysis α').run table) :=
  ⟨same, rfl, rfl, avoids⟩

namespace Ignores

theorem pure (value : α) : Ignores name (Pure.pure value) :=
  fun _ avoids => Weakens.pure rfl avoids

theorem bind {first : Analysis α} {next : α → Analysis β} (start : Ignores name first)
    (rest : ∀ value, Ignores name (next value)) : Ignores name (first >>= next) := by
  intro table avoids
  refine (start table avoids).bind fun value value' reached same reachedAvoids => ?_
  rw [same]
  exact rest value' reached reachedAvoids

/-- A step that looks at its table and leaves it as it is. -/
theorem read (look : SymbolTable → Traced α)
    (same : ∀ table : SymbolTable, table.Avoids name → table.scopes ≠ [] →
      (look (table.without name)).value = (look table).value ∧
        (look table).trace.diagnostics = (look (table.without name)).trace.diagnostics) :
    Ignores name (do look (← get)) := by
  intro table avoids
  have looked : (look (table.without name)).value = (look table).value ∧
      (look table).trace.diagnostics = (look (table.without name)).trace.diagnostics := by
    -- Without a scope there is nothing to take out, so the two are one look at one table.
    by_cases noScope : table.scopes = []
    · rw [table.without_noScope noScope]
      exact ⟨rfl, rfl⟩
    · exact same table avoids noScope
  refine ⟨looked.1, ?_, rfl, avoids⟩
  exact (congrArg Trace.diagnostics (List.append_nil _)).trans
    (looked.2.trans (congrArg Trace.diagnostics (List.append_nil _).symm))

end Ignores

end

section

variable {name : String}

/-! ### Expressions -/

theorem Ident.resolve_ignores (ident : Ident) (unbound : ident.symbol = none)
    (different : ident.name ≠ name) : Ignores name (do ident.resolve (← get)) := by
  refine .read ident.resolve fun table avoids hasScope => ⟨?_, ?_⟩
  · rw [ident.resolve_value table hasScope unbound,
      ident.resolve_value _ (table.without_hasScope hasScope) unbound,
      table.visible?_without different]
  · rw [ident.resolve_reports table hasScope,
      ident.resolve_reports _ (table.without_hasScope hasScope),
      Use.fault?_reference_same avoids.agree ident false different]

namespace Expr

theorem analyze_ignores (expr : Expr) (apart : ∀ visit ∈ expr.visits, visit.IsApartFrom name) :
    Ignores name expr.analyze := by
  have fresh := fun visit met => (apart visit met).fresh
  refine .read (fun table => expr.resolve table) fun table avoids hasScope => ⟨?_, ?_⟩
  · rw [expr.resolve_value table hasScope fresh,
      expr.resolve_value _ (table.without_hasScope hasScope) fresh,
      expr.bound_same avoids.agree apart]
  · rw [expr.resolve_reports table hasScope fresh,
      expr.resolve_reports _ (table.without_hasScope hasScope) fresh,
      expr.faults_same avoids.agree false apart]

theorem resolveList_ignores (exprs : List Expr)
    (apart : ∀ visit ∈ visitsOfList exprs, visit.IsApartFrom name) :
    Ignores name (do Expr.resolveList (← get) exprs) := by
  have fresh := fun visit met => (apart visit met).fresh
  refine .read (fun table => Expr.resolveList table exprs) fun table avoids hasScope => ⟨?_, ?_⟩
  · rw [resolveList_value table hasScope exprs fresh,
      resolveList_value _ (table.without_hasScope hasScope) exprs fresh,
      boundList_same avoids.agree exprs apart]
  · rw [resolveList_reports table hasScope exprs fresh,
      resolveList_reports _ (table.without_hasScope hasScope) exprs fresh,
      faultsOfList_same avoids.agree exprs apart]

end Expr

/-! ### Declarations -/

theorem enterScope_ignores : Ignores name enterScope :=
  fun _ avoids => ⟨rfl, rfl, rfl, avoids.push⟩

theorem leaveScope_ignores : Ignores name leaveScope := by
  intro table avoids
  obtain ⟨scopes⟩ := table
  cases scopes with
  | nil => exact ⟨rfl, rfl, rfl, avoids⟩
  | cons innermost outer =>
    exact ⟨rfl, rfl, rfl, fun scope member => avoids scope (List.mem_cons_of_mem innermost member)⟩

theorem TypeName.check_without (type : TypeName)
    (apart : ∀ visit ∈ type.visits, visit.IsApartFrom name) (table : SymbolTable) :
    (type.check (table.without name)) = type.check table := by
  cases type with
  | struct structName =>
    have different := (apart _ List.mem_cons_self).2
    rw [check, check, SymbolTable.definesStruct, SymbolTable.definesStruct,
      table.visible?_without different]
  | _ => rfl

theorem declareDefinition_ignores (ident : Ident) (symbol : Symbol) (event : Option Event)
    (silent : ∀ noted, event = some noted → noted.isSilent = true) (different : ident.name ≠ name)
    (declared : symbol.Avoids name) : Ignores name (declareDefinition ident symbol event) := by
  intro table avoids
  refine ⟨rfl, ?_, ?_, ?_⟩
  · rw [declareDefinition_taken ident symbol event silent,
      declareDefinition_taken ident symbol event silent, table.isTaken_without different]
  · rw [declareDefinition_after, declareDefinition_after, table.accept_without different]
  · rw [declareDefinition_after]
    exact avoids.accept declared

theorem Function.declare_ignores (ret : TypeName) (ident : Ident) (formals : List Formal)
    (different : ident.name ≠ name) :
    Ignores name (declareDefinition ident (.function (signatureOf ret formals))
      (some (.declaredFunction ident.name))) :=
  declareDefinition_ignores ident _ _ (fun _ same => by cases same; rfl) different
    ⟨nofun, nofun⟩

/-- A variable or a formal. What its declaration answers is not looked at. -/
theorem declareTyped_weakens (type : TypeName) (ident : Ident)
    (apart : ∀ visit ∈ type.visits, visit.IsApartFrom name) (different : ident.name ≠ name)
    (table : SymbolTable) (avoids : table.Avoids name) :
    Weakens name (fun _ _ => True)
      ((declareTyped (table.without name) type ident).run (table.without name))
      ((declareTyped table type ident).run table) := by
  have reports : ((declareTyped table type ident).run table).trace.diagnostics =
      ((declareTyped (table.without name) type ident).run
        (table.without name)).trace.diagnostics := by
    rw [declareTyped_taken, declareTyped_taken, type.check_without apart,
      table.isTaken_without different]
  by_cases void : type.isVoid = true
  · have nothing : bindingsOf [.typed type ident] = [] :=
      bindingsOf_cons_void (.typed type ident) [] void
    refine ⟨trivial, reports, ?_, ?_⟩
    · rw [declareTyped_after, declareTyped_after, nothing]
      rfl
    · rw [declareTyped_after, nothing]
      exact avoids
  · have one : bindingsOf [.typed type ident] = [(ident.name, type.symbol)] :=
      bindingsOf_cons (.typed type ident) [] (Bool.not_eq_true _ ▸ void)
    refine ⟨trivial, reports, ?_, ?_⟩
    · rw [declareTyped_after, declareTyped_after, one]
      exact table.accept_without different
    · rw [declareTyped_after, one]
      exact avoids.accept (type.symbol_avoids apart)

theorem declareFields_without (fields : List VarDecl)
    (apart : ∀ visit ∈ fields.flatMap VarDecl.visits, visit.IsApartFrom name)
    (table : SymbolTable) (current : FieldTable) :
    ((declareFields (table.without name) fields).run current).trace.diagnostics =
      ((declareFields table fields).run current).trace.diagnostics := by
  induction fields generalizing current with
  | nil => rfl
  | cons field rest inductionHypothesis =>
    rw [List.flatMap_cons, List.forall_mem_append, VarDecl.visits, List.forall_mem_append] at apart
    have first : field.declare (σ := FieldTable) (table.without name) = field.declare table := by
      rw [VarDecl.declare, VarDecl.declare, declareTyped, declareTyped,
        field.type.check_without apart.1.1]
    rw [declareFields, declareFields, run_bind_trace, run_bind_trace, Trace.diagnostics_append,
      Trace.diagnostics_append, first, inductionHypothesis apart.2]

theorem Formal.declareList_ignores (formals : List Formal)
    (apart : ∀ visit ∈ formals.flatMap Formal.visits, visit.IsApartFrom name) :
    Ignores name (Formal.declareList formals) := by
  induction formals with
  | nil => exact .pure ()
  | cons formal rest inductionHypothesis =>
    rw [List.flatMap_cons, List.forall_mem_append, Formal.visits, List.forall_mem_append] at apart
    intro table avoids
    have different := (apart.1.2 _ List.mem_cons_self).2
    have first := declareTyped_weakens formal.type formal.name apart.1.1 different table avoids
    exact first.bind fun _ _ reached _ reachedAvoids =>
      inductionHypothesis apart.2 reached reachedAvoids

theorem StructDecl.analyze_ignores (decl : StructDecl)
    (apart : ∀ visit ∈ decl.visits, visit.IsApartFrom name) : Ignores name decl.analyze := by
  rw [StructDecl.visits, List.forall_mem_cons] at apart
  have different := apart.1.2
  intro table avoids
  refine ⟨rfl, ?_, ?_, ?_⟩
  · rw [decl.analyze_taken, decl.analyze_taken, table.isTaken_without different,
      declareFields_without decl.fields apart.2]
  · rw [decl.analyze_after, decl.analyze_after, table.accept_without different]
  · rw [decl.analyze_after]
    exact avoids.accept (fieldTable_avoids decl.fields apart.2)

end

/-! ### Blocks, statements and declarations -/

mutual

theorem Block.analyze_ignores (name : String) : ∀ block : Block,
    (∀ visit ∈ block.visits, visit.IsApartFrom name) → Ignores name block.analyze
  | ⟨decls, stmts⟩, apart => by
    rw [Block.visits, List.forall_mem_append] at apart
    rw [Block.analyze]
    exact (Decl.analyzeList_ignores name decls apart.1).bind fun _ =>
      (Stmt.analyzeList_ignores name stmts apart.2).bind fun _ => .pure _

theorem Stmt.analyze_ignores (name : String) : ∀ stmt : Stmt,
    (∀ visit ∈ stmt.visits, visit.IsApartFrom name) → Ignores name stmt.analyze
  | .assign lhs rhs, apart => by
    rw [Stmt.visits, List.forall_mem_append] at apart
    rw [Stmt.analyze]
    exact (lhs.analyze_ignores apart.1).bind fun _ =>
      (rhs.analyze_ignores apart.2).bind fun _ => .pure _
  | .postInc expr, apart | .postDec expr, apart | .read expr, apart | .write expr, apart
  | .ret (some expr), apart => by
    rw [Stmt.visits] at apart
    rw [Stmt.analyze]
    exact (expr.analyze_ignores apart).bind fun _ => .pure _
  | .ifThen cond body, apart | .whileDo cond body, apart => by
    rw [Stmt.visits, List.forall_mem_append] at apart
    rw [Stmt.analyze]
    exact (cond.analyze_ignores apart.1).bind fun _ => enterScope_ignores.bind fun _ =>
      (Block.analyze_ignores name body apart.2).bind fun _ => leaveScope_ignores.bind fun _ =>
        .pure _
  | .ifElse cond thenBranch elseBranch, apart => by
    rw [Stmt.visits, List.forall_mem_append, List.forall_mem_append] at apart
    rw [Stmt.analyze]
    exact (cond.analyze_ignores apart.1.1).bind fun _ => enterScope_ignores.bind fun _ =>
      (Block.analyze_ignores name thenBranch apart.1.2).bind fun _ =>
        leaveScope_ignores.bind fun _ => enterScope_ignores.bind fun _ =>
          (Block.analyze_ignores name elseBranch apart.2).bind fun _ =>
            leaveScope_ignores.bind fun _ => .pure _
  | .call callee args, apart => by
    rw [Stmt.visits, List.forall_mem_cons] at apart
    rw [Stmt.analyze]
    exact (callee.resolve_ignores apart.1.1 apart.1.2).bind fun _ =>
      (Expr.resolveList_ignores args apart.2).bind fun _ => .pure _
  | .ret none, _ => by
    rw [Stmt.analyze]
    exact .pure _

theorem Stmt.analyzeList_ignores (name : String) : ∀ stmts : List Stmt,
    (∀ visit ∈ Stmt.visitsOfList stmts, visit.IsApartFrom name) →
      Ignores name (Stmt.analyzeList stmts)
  | [], _ => by
    rw [Stmt.analyzeList]
    exact .pure _
  | stmt :: rest, apart => by
    rw [Stmt.visitsOfList, List.forall_mem_append] at apart
    rw [Stmt.analyzeList]
    exact (Stmt.analyze_ignores name stmt apart.1).bind fun _ =>
      (Stmt.analyzeList_ignores name rest apart.2).bind fun _ => .pure _

theorem Function.analyze_ignores (name : String) : ∀ decl : Function,
    (∀ visit ∈ decl.visits, visit.IsApartFrom name) → Ignores name decl.analyze
  | ⟨ret, ident, formals, body⟩, apart => by
    rw [Function.visits, List.append_assoc, List.forall_mem_append, List.cons_append,
      List.forall_mem_cons, List.forall_mem_append] at apart
    obtain ⟨_, nameApart, formalsApart, bodyApart⟩ := apart
    have declared := Function.declare_ignores ret ident formals nameApart.2
    rw [Function.analyze_eq]
    exact declared.bind fun _ => enterScope_ignores.bind fun _ =>
      (Formal.declareList_ignores formals formalsApart).bind fun _ =>
        (Block.analyze_ignores name body bodyApart).bind fun _ =>
          leaveScope_ignores.bind fun _ => .pure _

theorem Decl.analyze_ignores (name : String) : ∀ decl : Decl,
    (∀ visit ∈ decl.visits, visit.IsApartFrom name) → Ignores name decl.analyze
  | .var decl, apart => by
    rw [Decl.visits, VarDecl.visits, List.forall_mem_append] at apart
    have different := (apart.2 _ List.mem_cons_self).2
    rw [Decl.analyze]
    intro table avoids
    have declared := declareTyped_weakens decl.type decl.name apart.1 different table avoids
    exact declared.bind fun _ _ reached _ => Ignores.pure (Decl.var decl) reached
  | .func decl, apart => by
    rw [Decl.visits] at apart
    rw [Decl.analyze]
    exact (Function.analyze_ignores name decl apart).bind fun _ => .pure _
  | .struct decl, apart => by
    rw [Decl.visits] at apart
    rw [Decl.analyze]
    exact (decl.analyze_ignores apart).bind fun _ => .pure _

theorem Decl.analyzeList_ignores (name : String) : ∀ decls : List Decl,
    (∀ visit ∈ Decl.visitsOfList decls, visit.IsApartFrom name) →
      Ignores name (Decl.analyzeList decls)
  | [], _ => by
    rw [Decl.analyzeList]
    exact .pure _
  | decl :: rest, apart => by
    rw [Decl.visitsOfList, List.forall_mem_append] at apart
    rw [Decl.analyzeList]
    exact (Decl.analyze_ignores name decl apart.1).bind fun _ =>
      (Decl.analyzeList_ignores name rest apart.2).bind fun _ => .pure _

end

end NameBinding
