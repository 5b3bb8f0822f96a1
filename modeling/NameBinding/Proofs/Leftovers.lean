/-
This file says what an analysis leaves on a name that it cannot resolve. It writes a symbol only
where it finds one, so a name that fails keeps what it had before: nothing if the tree is new, and
otherwise the symbol of an earlier analysis, even if that was made in scopes that are closed by now.
The same holds of a field that is not found and of the access around it. So a failure carries no
symbol exactly if it carried none before. In a statement every expression is looked at in the table
that is there when its names are looked up.
-/

import Mathlib.Data.List.Forall2
import NameBinding.Proofs.Tables
import NameBinding.Proofs.Uses

namespace NameBinding

open Declarable (accept acceptAll)

/-! ### Failures -/

namespace Visit

/-- The symbols that stand on what was met. -/
def symbols : Visit → List (Option Symbol)
  | ident occurrence _ => [occurrence.symbol]
  | access _ field exposed => [field.symbol, exposed]

/-- Whether what was met after an analysis in a table was not resolved by it: a reference whose name
is not visible, or an access whose base gives no fields or none of this name. -/
def fails (table : SymbolTable) : Visit → Bool
  | ident occurrence .reference => (table.visible? occurrence.name).isNone
  | ident _ _ => false
  | access base field _ =>
    ((base.selectable table field.pos).value.bind fun fields => fields.find? field.name).isNone

/-- Whether a thing, met before an analysis and after it, either did not fail or has the symbols
that it had. -/
def KeepsIfFailed (table : SymbolTable) (before after : Visit) : Prop :=
  after.fails table = true → after.symbols = before.symbols

end Visit

open Visit (KeepsIfFailed)

/-! ### Expressions -/

/-- A name that is not visible is left as it is. -/
theorem Ident.resolve_of_hidden (table : SymbolTable) (ident : Ident)
    (hidden : table.visible? ident.name = none) : (ident.resolve table).value = ident := by
  unfold resolve
  split
  · rename_i symbol located
    have hasScope : table.scopes ≠ [] := by
      rintro none
      rw [SymbolTable.find, none] at located
      exact nomatch located
    rw [table.find_eq hasScope, hidden] at located
    exact nomatch located
  · rfl
  · rfl

theorem Ident.resolve_name (table : SymbolTable) (ident : Ident) :
    (ident.resolve table).value.name = ident.name := by
  unfold resolve
  split <;> rfl

theorem Ident.resolve_keeps (table : SymbolTable) (ident : Ident) :
    KeepsIfFailed table (.ident ident .reference)
      (.ident (ident.resolve table).value .reference) := by
  intro failed
  rw [Visit.fails, ident.resolve_name, Option.isNone_iff_eq_none] at failed
  rw [ident.resolve_of_hidden table failed]

namespace Expr

/-- An access that selects a field fails if the field is not found, and then it is left as it is. -/
theorem select_keeps (table : SymbolTable) (base : Expr) (field : Ident)
    (exposed : Option Symbol) (fields : FieldTable)
    (given : (base.selectable table field.pos).value = some fields) :
    ∃ field' exposed', (base.select table field exposed fields).value =
        .access base field' exposed' ∧
      KeepsIfFailed table (.access base field exposed) (.access base field' exposed') := by
  unfold select
  cases located : fields.find? field.name with
  | none => exact ⟨field, exposed, rfl, fun _ => rfl⟩
  | some symbol =>
    refine ⟨{ field with symbol := some symbol }, _, rfl, fun failed => ?_⟩
    rw [Visit.fails, given, Option.bind_some, located] at failed
    exact nomatch failed

/-- The visits of an access after its base: neither the field nor the access fails without being
left as it is. -/
theorem access_keeps (table : SymbolTable) {before after : List Visit} {base base' : Expr}
    {field field' : Ident} {exposed exposed' : Option Symbol}
    (baseKeeps : List.Forall₂ (KeepsIfFailed table) before after)
    (keeps : KeepsIfFailed table (.access base field exposed) (.access base' field' exposed')) :
    List.Forall₂ (KeepsIfFailed table)
      (before ++ [.ident field .field, .access base field exposed])
      (after ++ [.ident field' .field, .access base' field' exposed']) :=
  List.rel_append baseKeeps (.cons nofun (.cons keeps .nil))

mutual

theorem resolve_keeps (table : SymbolTable) : ∀ expr : Expr,
    List.Forall₂ (KeepsIfFailed table) expr.visits (expr.resolve table).value.visits
  | truth _ _ => .nil
  | id ident => .cons (ident.resolve_keeps table) .nil
  | intLit _ _ => .nil
  | strLit _ _ => .nil
  | access base field exposed => by
    have baseKeeps := resolve_keeps table base
    rw [resolve, Traced.value_bind, Traced.value_bind]
    cases given : ((base.resolve table).value.selectable table field.pos).value with
    | none =>
      rw [Traced.value_pure, visits, visits]
      exact access_keeps table baseKeeps fun _ => rfl
    | some fields =>
      obtain ⟨field', exposed', selected, keeps⟩ :=
        select_keeps table (base.resolve table).value field exposed fields given
      rw [selected, visits, visits]
      exact access_keeps table baseKeeps keeps
  | assign lhs rhs => List.rel_append (resolve_keeps table lhs) (resolve_keeps table rhs)
  | call callee args => .cons (callee.resolve_keeps table) (resolveList_keeps table args)
  | unary _ operand => resolve_keeps table operand
  | binary _ lhs rhs => List.rel_append (resolve_keeps table lhs) (resolve_keeps table rhs)

theorem resolveList_keeps (table : SymbolTable) : ∀ exprs : List Expr,
    List.Forall₂ (KeepsIfFailed table) (visitsOfList exprs)
      (visitsOfList (resolveList table exprs).value)
  | [] => .nil
  | expr :: rest => List.rel_append (resolve_keeps table expr) (resolveList_keeps table rest)

end

end Expr

/-! ### Statements -/

/-- An expression with the table in which its names are looked up. -/
structure Scene where
  table : SymbolTable
  expr : Expr

namespace Scene

/-- The expression after its names were looked up. -/
def resolved (scene : Scene) : Scene :=
  { scene with expr := (scene.expr.resolve scene.table).value }

end Scene

mutual

/-- The expressions of a block, in the order of the text. -/
def Block.scenes (table : SymbolTable) : Block → List Scene
  | ⟨decls, stmts⟩ =>
    Decl.scenesOfList table decls ++
      Stmt.scenesOfList (acceptAll table (bindingsOf (decls.map Decl.introduction))) stmts

/-- The expressions of a statement. The body of a branch or of a loop has a scope of its own. -/
def Stmt.scenes (table : SymbolTable) : Stmt → List Scene
  | .assign lhs rhs => [⟨table, lhs⟩, ⟨table, rhs⟩]
  | .postInc target => [⟨table, target⟩]
  | .postDec target => [⟨table, target⟩]
  | .ifThen cond body => ⟨table, cond⟩ :: body.scenes table.push
  | .ifElse cond thenBranch elseBranch =>
    ⟨table, cond⟩ :: (thenBranch.scenes table.push ++ elseBranch.scenes table.push)
  | .whileDo cond body => ⟨table, cond⟩ :: body.scenes table.push
  | .read target => [⟨table, target⟩]
  | .write value => [⟨table, value⟩]
  | .call callee args => [⟨table, .call callee args⟩]
  | .ret none => []
  | .ret (some value) => [⟨table, value⟩]

/-- The expressions of statements, one after the other. -/
def Stmt.scenesOfList (table : SymbolTable) : List Stmt → List Scene
  | [] => []
  | stmt :: rest => stmt.scenes table ++ Stmt.scenesOfList table rest

/-- The expressions of a function. Its formals are in the scope of its body. -/
def Function.scenes (table : SymbolTable) : Function → List Scene
  | ⟨ret, name, formals, body⟩ =>
    body.scenes (acceptAll (accept table (name.name, .function (signatureOf ret formals))).push
      (bindingsOf (formals.map Formal.introduction)))

/-- The expressions of a declaration. Only functions have some. -/
def Decl.scenes (table : SymbolTable) : Decl → List Scene
  | .var _ => []
  | .func decl => decl.scenes table
  | .struct _ => []

/-- The expressions of declarations, each of which is in force for those after it. -/
def Decl.scenesOfList (table : SymbolTable) : List Decl → List Scene
  | [] => []
  | decl :: rest =>
    decl.scenes table ++
      Decl.scenesOfList (acceptAll table (bindingsOf [decl.introduction])) rest

end

theorem Decl.analyze_introduction (table : SymbolTable) (decl : Decl) :
    (decl.analyze.run table).value.1.introduction = decl.introduction := by
  cases decl with
  | var decl => rw [Decl.analyze]; rfl
  | func decl =>
    obtain ⟨ret, name, formals, body⟩ := decl
    simp only [Decl.analyze, Function.analyze_eq, run_bind_value, StateT.run_pure,
      Traced.value_pure]
    rfl
  | struct decl => rw [Decl.analyze]; rfl

theorem Decl.analyzeList_introductions (table : SymbolTable) (decls : List Decl) :
    ((Decl.analyzeList decls).run table).value.1.map Decl.introduction =
      decls.map Decl.introduction := by
  induction decls generalizing table with
  | nil => rw [Decl.analyzeList]; rfl
  | cons decl rest inductionHypothesis =>
    rw [Decl.analyzeList]
    exact congrArg₂ List.cons (decl.analyze_introduction table) (inductionHypothesis _)

mutual

theorem Block.scenes_analyze (table : SymbolTable) : ∀ block : Block,
    (block.analyze.run table).value.1.scenes table = (block.scenes table).map Scene.resolved
  | ⟨decls, stmts⟩ => by
    simp only [Block.analyze, run_bind_value, StateT.run_pure, Traced.value_pure, Block.scenes,
      List.map_append, Decl.scenesOfList_analyze, Decl.analyzeList_after,
      Decl.analyzeList_introductions, Stmt.scenesOfList_analyze]

theorem Stmt.scenes_analyze (table : SymbolTable) : ∀ stmt : Stmt,
    (stmt.analyze.run table).value.1.scenes table = (stmt.scenes table).map Scene.resolved
  | .assign lhs rhs => by rw [Stmt.analyze]; rfl
  | .postInc target => by rw [Stmt.analyze]; rfl
  | .postDec target => by rw [Stmt.analyze]; rfl
  | .ifThen cond body => by
    rw [Stmt.analyze]
    exact congrArg (List.cons _) (Block.scenes_analyze table.push body)
  | .ifElse cond thenBranch elseBranch => by
    simp only [Stmt.analyze, run_bind_value, StateT.run_pure, Traced.value_pure, Stmt.scenes,
      Expr.analyze_after, enterScope_run, leaveScope_body thenBranch table
        (Block.analyze_after table.push thenBranch), Block.scenes_analyze, List.map_cons,
      List.map_append]
    rfl
  | .whileDo cond body => by
    rw [Stmt.analyze]
    exact congrArg (List.cons _) (Block.scenes_analyze table.push body)
  | .read target => by rw [Stmt.analyze]; rfl
  | .write value => by rw [Stmt.analyze]; rfl
  | .call callee args => by rw [Stmt.analyze]; rfl
  | .ret none => by rw [Stmt.analyze]; rfl
  | .ret (some value) => by rw [Stmt.analyze]; rfl

theorem Stmt.scenesOfList_analyze (table : SymbolTable) : ∀ stmts : List Stmt,
    Stmt.scenesOfList table ((Stmt.analyzeList stmts).run table).value.1 =
      (Stmt.scenesOfList table stmts).map Scene.resolved
  | [] => by rw [Stmt.analyzeList]; rfl
  | stmt :: rest => by
    simp only [Stmt.analyzeList, run_bind_value, StateT.run_pure, Traced.value_pure,
      Stmt.scenesOfList, List.map_append, Stmt.analyze_after, Stmt.scenes_analyze table stmt,
      Stmt.scenesOfList_analyze table rest]

theorem Function.scenes_analyze (table : SymbolTable) : ∀ decl : Function,
    (decl.analyze.run table).value.1.scenes table = (decl.scenes table).map Scene.resolved
  | ⟨ret, name, formals, body⟩ => by
    simp only [Function.analyze_eq, run_bind_value, StateT.run_pure, Traced.value_pure,
      Function.scenes, Formal.declareList_after, enterScope_run, declareDefinition_after,
      Block.scenes_analyze]

theorem Decl.scenes_analyze (table : SymbolTable) : ∀ decl : Decl,
    (decl.analyze.run table).value.1.scenes table = (decl.scenes table).map Scene.resolved
  | .var decl => by rw [Decl.analyze]; rfl
  | .func decl => by
    rw [Decl.analyze]
    exact Function.scenes_analyze table decl
  | .struct decl => by rw [Decl.analyze]; rfl

theorem Decl.scenesOfList_analyze (table : SymbolTable) : ∀ decls : List Decl,
    Decl.scenesOfList table ((Decl.analyzeList decls).run table).value.1 =
      (Decl.scenesOfList table decls).map Scene.resolved
  | [] => by rw [Decl.analyzeList]; rfl
  | decl :: rest => by
    simp only [Decl.analyzeList, run_bind_value, StateT.run_pure, Traced.value_pure,
      Decl.scenesOfList, List.map_append, Decl.analyze_after, Decl.analyze_introduction,
      Decl.scenes_analyze table decl, Decl.scenesOfList_analyze _ rest]

end

/-! ### What stands on failures -/

namespace Visit

/-- Whether no symbol stands on what was met. -/
def IsUnbound (visit : Visit) : Prop :=
  ∀ symbol ∈ visit.symbols, symbol = none

end Visit

namespace Scene

/-- Whether no symbol stands on anything in an analysed expression that failed. -/
def FailuresUnbound (scene : Scene) : Prop :=
  ∀ visit ∈ scene.expr.visits, visit.fails scene.table = true → visit.IsUnbound

/-- Whether no symbol stands yet on anything in an expression that its analysis will fail on. -/
def FailuresNew (scene : Scene) : Prop :=
  List.Forall₂ (fun before after => after.fails scene.table = true → before.IsUnbound)
    scene.expr.visits scene.resolved.expr.visits

end Scene

/-- If each of two related things is as it should be just if the other one is good, two related
lists are as they should be just if the second one is good throughout. -/
theorem forall₂_iff_forall_mem {α β : Type} {related fits : α → β → Prop} {good : β → Prop}
    {first : List α} {second : List β} (given : List.Forall₂ related first second)
    (each : ∀ a b, related a b → (fits a b ↔ good b)) :
    List.Forall₂ fits first second ↔ ∀ b ∈ second, good b := by
  induction given with
  | nil => exact iff_of_true .nil nofun
  | cons head _ inductionHypothesis =>
    rw [List.forall₂_cons, List.forall_mem_cons, each _ _ head, inductionHypothesis]

namespace Scene

/-- An analysis leaves the failures of an expression without symbols if they had none before. -/
theorem failuresUnbound_iff (scene : Scene) :
    scene.resolved.FailuresUnbound ↔ scene.FailuresNew := by
  refine (forall₂_iff_forall_mem (scene.expr.resolve_keeps scene.table) ?_).symm
  intro before after keeps
  refine forall_congr' fun failed => ?_
  rw [Visit.IsUnbound, Visit.IsUnbound, keeps failed]

end Scene

/-- After an analysis no symbol stands on a name, a field or an access that it failed on, in an
expression or anywhere in a statement, just if none stood there before. -/
theorem failures_unbound_iff (table : SymbolTable) :
    (∀ expr : Expr, (Scene.mk table (expr.analyze.run table).value.1).FailuresUnbound ↔
        (Scene.mk table expr).FailuresNew) ∧
      ∀ stmt : Stmt,
        (∀ scene ∈ (stmt.analyze.run table).value.1.scenes table, scene.FailuresUnbound) ↔
          ∀ scene ∈ stmt.scenes table, scene.FailuresNew := by
  refine ⟨fun expr => (Scene.mk table expr).failuresUnbound_iff, fun stmt => ?_⟩
  rw [stmt.scenes_analyze table, List.forall_mem_map]
  exact forall₂_congr fun scene _ => scene.failuresUnbound_iff

namespace Expr

/-- A name, after an analysis in a table with a scope that declares it. -/
def outlived : Expr :=
  ((id ⟨"x", ⟨1, 1⟩, none⟩).analyze.run ⟨[⟨[("x", .plain "integer")]⟩, Scope.empty]⟩).value.1

/-- When the scope is closed the name fails, and its symbol is still there. -/
theorem not_failures_unbound_outlived :
    ¬ ∀ (expr : Expr) (table : SymbolTable), table.scopes ≠ [] →
      (Scene.mk table (expr.analyze.run table).value.1).FailuresUnbound := by
  intro unbound
  have bare := unbound outlived .new (List.cons_ne_nil _ _) _ List.mem_cons_self rfl
    (some (.plain "integer")) List.mem_cons_self
  exact nomatch bare

end Expr

end NameBinding
