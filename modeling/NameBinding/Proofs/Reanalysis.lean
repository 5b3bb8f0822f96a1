/-
This file proves that a second analysis adds nothing to the first. An analysis reads the symbols
that stand on the tree, so a second one starts from what the first left there. Whatever a step of
the first wrote, the same step of the second finds the same table and the same base, and writes the
same symbol again; whatever it left alone is left alone again. So the step gives the same tree, the
same table and the same events, on trees of any kind and in any table, and nothing has to be known
of the symbols that were there before the first analysis.
-/

import NameBinding.Proofs.Attachment

namespace NameBinding

/-- Two steps that go on alike from what a first one gives are alike behind it. -/
theorem Traced.bind_congr {α β : Type} {first : Traced α} {next other : α → Traced β}
    (same : next first.value = other first.value) : (first >>= next) = (first >>= other) := by
  show Traced.mk _ _ = Traced.mk _ _
  rw [same]

/-- A step on a table that is put together of two, each of which does what another one does. -/
theorem run_bind_congr {σ α β : Type} {first firstOther : Declaring σ α}
    {next nextOther : α → Declaring σ β} {current : σ}
    (same : first.run current = firstOther.run current)
    (sameNext : (next (firstOther.run current).value.1).run (firstOther.run current).value.2 =
      (nextOther (firstOther.run current).value.1).run (firstOther.run current).value.2) :
    (first >>= next).run current = (firstOther >>= nextOther).run current := by
  rw [StateT.run_bind, StateT.run_bind, same]
  exact Traced.bind_congr sameNext

theorem run_lift_congr {σ α : Type} {step other : Traced α} (same : step = other) (current : σ) :
    (liftM step : Declaring σ α).run current = (liftM other : Declaring σ α).run current := by
  rw [same]

/-! ### Expressions -/

/-- A name that was bound is bound again, and one that was left alone is left alone again. -/
theorem Ident.resolve_again (table : SymbolTable) (ident : Ident) :
    (ident.resolve table).value.resolve table = ident.resolve table := by
  unfold resolve
  cases located : table.find ident.name with
  | error reason => simp only [located, Traced.value_bind, Traced.value_pure]
  | ok found =>
    cases found with
    | none => simp only [located, Traced.value_bind, Traced.value_pure]
    | some symbol => simp only [located, Traced.value_bind, Traced.value_pure]

namespace Expr

/-- A field is selected again from the same fields, and the access exposes the same. -/
theorem select_again (table : SymbolTable) (base : Expr) (field : Ident)
    (exposed : Option Symbol) (fields : FieldTable) :
    ∃ field' exposed', (base.select table field exposed fields).value =
        .access base field' exposed' ∧ field'.pos = field.pos ∧
      base.select table field' exposed' fields = base.select table field exposed fields := by
  unfold select
  cases located : fields.find? field.name with
  | none => exact ⟨field, exposed, rfl, rfl, by rw [located]⟩
  | some symbol =>
    refine ⟨{ field with symbol := some symbol }, _, rfl, rfl, ?_⟩
    simp only [located]
    cases symbol.structName? <;> rfl

mutual

theorem resolve_again (table : SymbolTable) : ∀ expr : Expr,
    (expr.resolve table).value.resolve table = expr.resolve table
  | truth _ _ => rfl
  | id ident => by
    simp only [resolve, Traced.value_bind, Traced.value_pure, ident.resolve_again table]
  | intLit _ _ => rfl
  | strLit _ _ => rfl
  | access base field exposed => by
    have baseAgain := resolve_again table base
    cases reached : ((base.resolve table).value.selectable table field.pos).value with
    | none =>
      simp only [resolve, Traced.value_bind, Traced.value_pure, reached, baseAgain]
    | some fields =>
      obtain ⟨field', exposed', selected, samePos, again⟩ :=
        select_again table (base.resolve table).value field exposed fields
      simp only [resolve, Traced.value_bind, reached, selected, baseAgain, samePos]
      refine Traced.bind_congr (Traced.bind_congr ?_)
      simp only [reached, again]
  | assign lhs rhs => by
    simp only [resolve, Traced.value_bind, Traced.value_pure, resolve_again table lhs,
      resolve_again table rhs]
  | call callee args => by
    simp only [resolve, Traced.value_bind, Traced.value_pure, callee.resolve_again table,
      resolveList_again table args]
  | unary op operand => by
    simp only [resolve, Traced.value_bind, Traced.value_pure, resolve_again table operand]
  | binary op lhs rhs => by
    simp only [resolve, Traced.value_bind, Traced.value_pure, resolve_again table lhs,
      resolve_again table rhs]

theorem resolveList_again (table : SymbolTable) : ∀ exprs : List Expr,
    resolveList table (resolveList table exprs).value = resolveList table exprs
  | [] => rfl
  | expr :: rest => by
    simp only [resolveList, Traced.value_bind, Traced.value_pure, resolve_again table expr,
      resolveList_again table rest]

end

theorem analyze_again (expr : Expr) (table : SymbolTable) :
    (expr.analyze.run table).value.1.analyze.run table = expr.analyze.run table :=
  run_lift_congr (expr.resolve_again table) table

end Expr

/-! ### Blocks, statements and declarations -/

mutual

theorem Block.analyze_again (table : SymbolTable) : ∀ block : Block,
    (block.analyze.run table).value.1.analyze.run table = block.analyze.run table
  | ⟨decls, stmts⟩ => by
    simp only [Block.analyze, run_bind_value, StateT.run_pure, Traced.value_pure]
    exact run_bind_congr (Decl.analyzeList_again table decls)
      (run_bind_congr (Stmt.analyzeList_again _ stmts) rfl)

theorem Stmt.analyze_again (table : SymbolTable) : ∀ stmt : Stmt,
    (stmt.analyze.run table).value.1.analyze.run table = stmt.analyze.run table
  | .assign lhs rhs => by
    simp only [Stmt.analyze, run_bind_value, StateT.run_pure, Traced.value_pure]
    exact run_bind_congr (lhs.analyze_again table) (run_bind_congr (rhs.analyze_again _) rfl)
  | .postInc target => by
    simp only [Stmt.analyze, run_bind_value, StateT.run_pure, Traced.value_pure]
    exact run_bind_congr (target.analyze_again table) rfl
  | .postDec target => by
    simp only [Stmt.analyze, run_bind_value, StateT.run_pure, Traced.value_pure]
    exact run_bind_congr (target.analyze_again table) rfl
  | .ifThen cond body => by
    simp only [Stmt.analyze, run_bind_value, StateT.run_pure, Traced.value_pure]
    exact run_bind_congr (cond.analyze_again table) (run_bind_congr rfl
      (run_bind_congr (Block.analyze_again _ body) rfl))
  | .ifElse cond thenBranch elseBranch => by
    simp only [Stmt.analyze, run_bind_value, StateT.run_pure, Traced.value_pure]
    exact run_bind_congr (cond.analyze_again table) (run_bind_congr rfl
      (run_bind_congr (Block.analyze_again _ thenBranch) (run_bind_congr rfl
        (run_bind_congr rfl (run_bind_congr (Block.analyze_again _ elseBranch) rfl)))))
  | .whileDo cond body => by
    simp only [Stmt.analyze, run_bind_value, StateT.run_pure, Traced.value_pure]
    exact run_bind_congr (cond.analyze_again table) (run_bind_congr rfl
      (run_bind_congr (Block.analyze_again _ body) rfl))
  | .read target => by
    simp only [Stmt.analyze, run_bind_value, StateT.run_pure, Traced.value_pure]
    exact run_bind_congr (target.analyze_again table) rfl
  | .write value => by
    simp only [Stmt.analyze, run_bind_value, StateT.run_pure, Traced.value_pure]
    exact run_bind_congr (value.analyze_again table) rfl
  | .call callee args => by
    simp only [Stmt.analyze, run_bind_value, StateT.run_pure, Traced.value_pure]
    exact run_bind_congr rfl (run_bind_congr (run_lift_congr (callee.resolve_again table) _)
      (run_bind_congr rfl (run_bind_congr (run_lift_congr (Expr.resolveList_again table args) _)
        rfl)))
  | .ret none => by rw [Stmt.analyze]; rfl
  | .ret (some value) => by
    simp only [Stmt.analyze, run_bind_value, StateT.run_pure, Traced.value_pure]
    exact run_bind_congr (value.analyze_again table) rfl

theorem Stmt.analyzeList_again (table : SymbolTable) : ∀ stmts : List Stmt,
    (Stmt.analyzeList ((Stmt.analyzeList stmts).run table).value.1).run table =
      (Stmt.analyzeList stmts).run table
  | [] => by rw [Stmt.analyzeList]; rfl
  | stmt :: rest => by
    simp only [Stmt.analyzeList, run_bind_value, StateT.run_pure, Traced.value_pure]
    exact run_bind_congr (Stmt.analyze_again table stmt)
      (run_bind_congr (Stmt.analyzeList_again _ rest) rfl)

theorem Function.analyze_again (table : SymbolTable) : ∀ decl : Function,
    (decl.analyze.run table).value.1.analyze.run table = decl.analyze.run table
  | ⟨ret, name, formals, body⟩ => by
    simp only [Function.analyze_eq, run_bind_value, StateT.run_pure, Traced.value_pure]
    exact run_bind_congr rfl (run_bind_congr rfl (run_bind_congr rfl
      (run_bind_congr (Block.analyze_again _ body) rfl)))

theorem Decl.analyze_again (table : SymbolTable) : ∀ decl : Decl,
    (decl.analyze.run table).value.1.analyze.run table = decl.analyze.run table
  | .var decl => by rw [Decl.analyze]; rfl
  | .func decl => by
    simp only [Decl.analyze, run_bind_value, StateT.run_pure, Traced.value_pure]
    exact run_bind_congr (Function.analyze_again table decl) rfl
  | .struct decl => by rw [Decl.analyze]; rfl

theorem Decl.analyzeList_again (table : SymbolTable) : ∀ decls : List Decl,
    (Decl.analyzeList ((Decl.analyzeList decls).run table).value.1).run table =
      (Decl.analyzeList decls).run table
  | [] => by rw [Decl.analyzeList]; rfl
  | decl :: rest => by
    simp only [Decl.analyzeList, run_bind_value, StateT.run_pure, Traced.value_pure]
    exact run_bind_congr (Decl.analyze_again table decl)
      (run_bind_congr (Decl.analyzeList_again _ rest) rfl)

end

/-! ### Programs -/

theorem Decl.length_analyzeList (table : SymbolTable) (decls : List Decl) :
    ((Decl.analyzeList decls).run table).value.1.length = decls.length := by
  induction decls generalizing table with
  | nil => rw [Decl.analyzeList]; rfl
  | cons decl rest inductionHypothesis =>
    rw [Decl.analyzeList]
    exact congrArg Nat.succ (inductionHypothesis _)

namespace Program

theorem analyze_again (program : Program) :
    program.analyze.value.analyze = program.analyze := by
  simp only [analyze, Traced.value_bind, Traced.value_pure, Decl.length_analyzeList,
    Decl.analyzeList_again]

/-- A program that was checked is left as it is by a further check, with every symbol that is on it
and every one that is not, and the same errors are reported again. -/
theorem check_again (program : Program) : program.check.1.check = program.check := by
  simp only [check, analyze_again]

end Program

end NameBinding
