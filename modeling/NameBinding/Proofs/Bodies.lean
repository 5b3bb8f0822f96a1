/-
This file proves that the inside of a body does not reach the rest of a program. A body is that of a
function, of a loop or of a conditional, or one of two branches, at any depth. A program with a body
taken out is a gap, and putting different bodies into the same gap gives programs that differ in the
body only. The analysis takes up the body in a table that is known from the gap alone, and it closes
the scope of the body at its end, so all that it does before and after is the same for every body.
-/

import NameBinding.Proofs.Accounts
import NameBinding.Proofs.Annotation

namespace NameBinding

open Declarable (accept acceptAll)

/-! ### Programs with a body taken out -/

/-- Declarations with the body of one function taken out. -/
structure FunctionGap where
  before : List Decl
  ret : TypeName
  name : Ident
  formals : List Formal
  after : List Decl

/-- A statement with a body taken out. -/
inductive StmtGap
  | ifThen (cond : Expr)
  | thenBranch (cond : Expr) (elseBranch : Block)
  | elseBranch (cond : Expr) (thenBranch : Block)
  | whileDo (cond : Expr)

/-- A block with a body taken out that is directly in it. -/
inductive BlockGap
  /-- The body is that of a function. -/
  | decls (gap : FunctionGap) (stmts : List Stmt)
  /-- The body belongs to a statement. -/
  | stmts (decls : List Decl) (before : List Stmt) (gap : StmtGap) (after : List Stmt)

/-- A program with a body taken out. -/
structure Gap where
  /-- The function of the program that the body is in, or whose body it is. -/
  outermost : FunctionGap
  /-- The blocks inside that function around the body, the outermost first. -/
  inner : List BlockGap

namespace FunctionGap

/-- The declarations with a body put in. -/
def fill (gap : FunctionGap) (body : Block) : List Decl :=
  gap.before ++ .func ⟨gap.ret, gap.name, gap.formals, body⟩ :: gap.after

/-- The table in which the body is taken up, if the declarations are taken up in this one. -/
def enter (gap : FunctionGap) (table : SymbolTable) : SymbolTable :=
  acceptAll
    (acceptAll table (bindingsOf (gap.before.map Decl.introduction ++
      [.function gap.ret gap.name gap.formals]))).push
    (bindingsOf (gap.formals.map Formal.introduction))

/-- The gap without symbols. -/
def withoutSymbols (gap : FunctionGap) : FunctionGap where
  before := Decl.withoutSymbolsList gap.before
  ret := gap.ret.withoutSymbols
  name := gap.name.unbound
  formals := gap.formals.map Formal.withoutSymbols
  after := Decl.withoutSymbolsList gap.after

end FunctionGap

namespace StmtGap

/-- The statement with a body put in. -/
def fill : StmtGap → Block → Stmt
  | ifThen cond, body => .ifThen cond body
  | thenBranch cond other, body => .ifElse cond body other
  | elseBranch cond other, body => .ifElse cond other body
  | whileDo cond, body => .whileDo cond body

/-- The gap without symbols. -/
def withoutSymbols : StmtGap → StmtGap
  | ifThen cond => ifThen cond.withoutSymbols
  | thenBranch cond other => thenBranch cond.withoutSymbols other.withoutSymbols
  | elseBranch cond other => elseBranch cond.withoutSymbols other.withoutSymbols
  | whileDo cond => whileDo cond.withoutSymbols

end StmtGap

namespace BlockGap

/-- The block with a body put in. -/
def fill : BlockGap → Block → Block
  | decls gap after, body => ⟨gap.fill body, after⟩
  | stmts locals before gap after, body => ⟨locals, before ++ gap.fill body :: after⟩

/-- The table in which the body is taken up, if the block is taken up in this one. -/
def enter : BlockGap → SymbolTable → SymbolTable
  | decls gap _, table => gap.enter table
  | stmts locals _ _ _, table =>
    (acceptAll table (bindingsOf (locals.map Decl.introduction))).push

/-- The gap without symbols. -/
def withoutSymbols : BlockGap → BlockGap
  | decls gap after => decls gap.withoutSymbols (Stmt.withoutSymbolsList after)
  | stmts locals before gap after =>
    stmts (Decl.withoutSymbolsList locals) (Stmt.withoutSymbolsList before) gap.withoutSymbols
      (Stmt.withoutSymbolsList after)

end BlockGap

namespace Gap

/-- The program with a body put in. -/
def fill (gap : Gap) (body : Block) : Program :=
  ⟨gap.outermost.fill (gap.inner.foldr BlockGap.fill body)⟩

/-- The table in which the body is taken up. -/
def table (gap : Gap) : SymbolTable :=
  gap.inner.foldl (fun table gap => gap.enter table) (gap.outermost.enter SymbolTable.new)

/-- The gap without symbols. -/
def withoutSymbols (gap : Gap) : Gap where
  outermost := gap.outermost.withoutSymbols
  inner := gap.inner.map BlockGap.withoutSymbols

end Gap

/-! ### The bodies of a program -/

mutual

/-- The bodies in a block, at any depth. -/
def Block.bodies : Block → List Block
  | ⟨decls, stmts⟩ => Decl.bodiesOfList decls ++ Stmt.bodiesOfList stmts

/-- The bodies in a statement: its own and those inside. -/
def Stmt.bodies : Stmt → List Block
  | .ifThen _ body => body :: body.bodies
  | .ifElse _ thenBranch elseBranch =>
    thenBranch :: thenBranch.bodies ++ elseBranch :: elseBranch.bodies
  | .whileDo _ body => body :: body.bodies
  | .assign _ _ => []
  | .postInc _ => []
  | .postDec _ => []
  | .read _ => []
  | .write _ => []
  | .call _ _ => []
  | .ret _ => []

/-- The bodies in statements. -/
def Stmt.bodiesOfList : List Stmt → List Block
  | [] => []
  | stmt :: rest => stmt.bodies ++ Stmt.bodiesOfList rest

/-- The bodies in a function: its own and those inside. -/
def Function.bodies : Function → List Block
  | ⟨_, _, _, body⟩ => body :: body.bodies

/-- The bodies in a declaration. -/
def Decl.bodies : Decl → List Block
  | .var _ => []
  | .func decl => decl.bodies
  | .struct _ => []

/-- The bodies in declarations. -/
def Decl.bodiesOfList : List Decl → List Block
  | [] => []
  | decl :: rest => decl.bodies ++ Decl.bodiesOfList rest

end

/-- The bodies in a program. -/
def Program.bodies (program : Program) : List Block :=
  Decl.bodiesOfList program.decls

/-- A body that is the own one of a statement or a function, or inside that one. -/
theorem gaps_of_own {body own : Block}
    (inside : body ∈ own.bodies → ∃ gaps : List BlockGap, gaps.foldr BlockGap.fill body = own)
    (within : body ∈ own :: own.bodies) :
    ∃ gaps : List BlockGap, gaps.foldr BlockGap.fill body = own := by
  rcases List.mem_cons.mp within with rfl | deeper
  · exact ⟨[], rfl⟩
  · exact inside deeper

mutual

/-- Around a body in a block there are the blocks between the two, one inside the other. -/
theorem Block.gaps_of_body (body : Block) : ∀ block : Block, body ∈ block.bodies →
    ∃ gaps : List BlockGap, gaps.foldr BlockGap.fill body = block
  | ⟨decls, stmts⟩, within => by
    rw [Block.bodies] at within
    rcases List.mem_append.mp within with declared | carried
    · obtain ⟨gap, gaps, rfl⟩ := Decl.gap_of_bodyOfList body decls declared
      exact ⟨.decls gap stmts :: gaps, rfl⟩
    · obtain ⟨before, gap, after, gaps, rfl⟩ := Stmt.gap_of_bodyOfList body stmts carried
      exact ⟨.stmts decls before gap after :: gaps, rfl⟩

theorem Stmt.gap_of_body (body : Block) : ∀ stmt : Stmt, body ∈ stmt.bodies →
    ∃ (gap : StmtGap) (gaps : List BlockGap), gap.fill (gaps.foldr BlockGap.fill body) = stmt
  | .ifThen cond own, within => by
    rw [Stmt.bodies] at within
    obtain ⟨gaps, rfl⟩ := gaps_of_own (Block.gaps_of_body body own) within
    exact ⟨.ifThen cond, gaps, rfl⟩
  | .ifElse cond thenBranch elseBranch, within => by
    rw [Stmt.bodies] at within
    rcases List.mem_append.mp within with first | second
    · obtain ⟨gaps, rfl⟩ := gaps_of_own (Block.gaps_of_body body thenBranch) first
      exact ⟨.thenBranch cond elseBranch, gaps, rfl⟩
    · obtain ⟨gaps, rfl⟩ := gaps_of_own (Block.gaps_of_body body elseBranch) second
      exact ⟨.elseBranch cond thenBranch, gaps, rfl⟩
  | .whileDo cond own, within => by
    rw [Stmt.bodies] at within
    obtain ⟨gaps, rfl⟩ := gaps_of_own (Block.gaps_of_body body own) within
    exact ⟨.whileDo cond, gaps, rfl⟩
  | .assign _ _, within | .postInc _, within | .postDec _, within | .read _, within
  | .write _, within | .call _ _, within | .ret _, within => by
    rw [Stmt.bodies] at within
    cases within

theorem Stmt.gap_of_bodyOfList (body : Block) : ∀ stmts : List Stmt,
    body ∈ Stmt.bodiesOfList stmts →
    ∃ (before : List Stmt) (gap : StmtGap) (after : List Stmt) (gaps : List BlockGap),
      before ++ gap.fill (gaps.foldr BlockGap.fill body) :: after = stmts
  | [], within => by
    rw [Stmt.bodiesOfList] at within
    cases within
  | stmt :: rest, within => by
    rw [Stmt.bodiesOfList] at within
    rcases List.mem_append.mp within with here | later
    · obtain ⟨gap, gaps, rfl⟩ := Stmt.gap_of_body body stmt here
      exact ⟨[], gap, rest, gaps, rfl⟩
    · obtain ⟨before, gap, after, gaps, rfl⟩ := Stmt.gap_of_bodyOfList body rest later
      exact ⟨stmt :: before, gap, after, gaps, rfl⟩

theorem Decl.gap_of_bodyOfList (body : Block) : ∀ decls : List Decl,
    body ∈ Decl.bodiesOfList decls →
    ∃ (gap : FunctionGap) (gaps : List BlockGap),
      gap.fill (gaps.foldr BlockGap.fill body) = decls
  | [], within => by
    rw [Decl.bodiesOfList] at within
    cases within
  | decl :: rest, within => by
    rw [Decl.bodiesOfList] at within
    rcases List.mem_append.mp within with here | later
    · match decl with
      | .var _ | .struct _ =>
        rw [Decl.bodies] at here
        cases here
      | .func ⟨ret, name, formals, own⟩ =>
        rw [Decl.bodies, Function.bodies] at here
        obtain ⟨gaps, rfl⟩ := gaps_of_own (Block.gaps_of_body body own) here
        exact ⟨⟨[], ret, name, formals, rest⟩, gaps, rfl⟩
    · obtain ⟨⟨before, ret, name, formals, after⟩, gaps, rfl⟩ :=
        Decl.gap_of_bodyOfList body rest later
      exact ⟨⟨decl :: before, ret, name, formals, after⟩, gaps, rfl⟩

end

/-- Each body of a program can be taken out. -/
theorem Program.gap_of_body (program : Program) (body : Block) (within : body ∈ program.bodies) :
    ∃ gap : Gap, gap.fill body = program := by
  obtain ⟨outermost, inner, filled⟩ := Decl.gap_of_bodyOfList body program.decls within
  exact ⟨⟨outermost, inner⟩, congrArg Program.mk filled⟩

/-! ### Steps around a body -/

/-- Whether a step takes up a body in a table and does everything else in the same way whatever the
body is: the same happens before and after, and the result has the analysed body in the same place.
-/
structure Encloses {α : Type} (step : Block → Traced (α × SymbolTable)) (table : SymbolTable)
    (fill : Block → α) (before after : Trace) : Prop where
  value : ∀ body, (step body).value.1 = fill (body.analyze.run table).value.1
  trace : ∀ body, (step body).trace = before ++ (body.analyze.run table).trace ++ after

/-- A body in a body is a body. -/
theorem Encloses.comp {α : Type} {step : Block → Traced (α × SymbolTable)}
    {table inside : SymbolTable} {fill : Block → α} {before after : Trace}
    {refill fillInside : Block → Block} {beforeInside afterInside : Trace}
    (outer : Encloses step table fill before after)
    (inner : Encloses (fun body => (refill body).analyze.run table) inside fillInside beforeInside
      afterInside) :
    Encloses (fun body => step (refill body)) inside (fun body => fill (fillInside body))
      (before ++ beforeInside) (afterInside ++ after) := by
  refine ⟨fun body => ?_, fun body => ?_⟩
  · rw [outer.value, inner.value]
  · rw [outer.trace, inner.trace]
    simp only [List.append_assoc]

/-- A scope is closed in the same way whatever was declared in it before a body, and whatever the
body is. -/
theorem leaveScope_block_trace (body : Block) (table : SymbolTable)
    (bindings : List (String × Symbol)) :
    (leaveScope.run (body.analyze.run (acceptAll table.push bindings)).value.2).trace =
      [.scopeLeft table.depth] := by
  rw [Block.analyze_after, ← Declarable.acceptAll_append, SymbolTable.push,
    SymbolTable.acceptAll_cons, leaveScope_run]
  rfl

theorem leaveScope_body_trace (body : Block) (table : SymbolTable) :
    (leaveScope.run (body.analyze.run table.push).value.2).trace = [.scopeLeft table.depth] :=
  leaveScope_block_trace body table []

/-! ### Bodies of statements -/

theorem Stmt.analyzeGuarded_encloses (cond : Expr) (rebuild : Expr → Block → Stmt)
    (table : SymbolTable) :
    Encloses (fun body => (Stmt.analyzeGuarded cond body rebuild).run table) table.push
      (rebuild (cond.analyze.run table).value.1)
      ((cond.analyze.run table).trace ++ [.scopeEntered table.push.depth])
      [.scopeLeft table.depth] := by
  refine ⟨fun body => rfl, fun body => ?_⟩
  simp only [Stmt.analyzeGuarded, run_bind_trace, StateT.run_pure, Traced.trace_pure,
    enterScope_run, Expr.analyze_after, leaveScope_body_trace, List.append_nil, List.append_assoc]

/-- The body of a statement has a scope of its own, and the other branch does not see it. -/
theorem StmtGap.fill_encloses (gap : StmtGap) (table : SymbolTable) :
    ∃ (bound : StmtGap) (before after : Trace), bound.withoutSymbols = gap.withoutSymbols ∧
      Encloses (fun body => (gap.fill body).analyze.run table) table.push bound.fill before
        after := by
  have left (body : Block) := leaveScope_body body table (Block.analyze_after table.push body)
  cases gap with
  | ifThen cond =>
    have steps : (fun body => ((ifThen cond).fill body).analyze.run table) =
        fun body => (Stmt.analyzeGuarded cond body .ifThen).run table := by
      funext body
      rw [fill, Stmt.analyze]
      rfl
    rw [steps]
    refine ⟨ifThen (cond.analyze.run table).value.1, _, _, ?_,
      Stmt.analyzeGuarded_encloses cond .ifThen table⟩
    rw [withoutSymbols, withoutSymbols, cond.analyze_withoutSymbols]
  | thenBranch cond other =>
    refine ⟨thenBranch (cond.analyze.run table).value.1 (other.analyze.run table.push).value.1,
      (cond.analyze.run table).trace ++ [.scopeEntered table.push.depth],
      [.scopeLeft table.depth, .scopeEntered table.push.depth] ++
        (other.analyze.run table.push).trace ++ [.scopeLeft table.depth], ?_, ?_, ?_⟩
    · rw [withoutSymbols, withoutSymbols, cond.analyze_withoutSymbols,
        Block.analyze_withoutSymbols]
    · intro body
      simp only [fill, Stmt.analyze, run_bind_value, StateT.run_pure, Traced.value_pure,
        enterScope_run, Expr.analyze_after, left]
    · intro body
      simp only [fill, Stmt.analyze, run_bind_trace, StateT.run_pure, Traced.trace_pure,
        enterScope_run, Expr.analyze_after, leaveScope_body_trace, left, List.append_nil,
        List.append_assoc, List.cons_append, List.nil_append]
  | elseBranch cond other =>
    refine ⟨elseBranch (cond.analyze.run table).value.1 (other.analyze.run table.push).value.1,
      (cond.analyze.run table).trace ++ [.scopeEntered table.push.depth] ++
        (other.analyze.run table.push).trace ++
        [.scopeLeft table.depth, .scopeEntered table.push.depth],
      [.scopeLeft table.depth], ?_, ?_, ?_⟩
    · rw [withoutSymbols, withoutSymbols, cond.analyze_withoutSymbols,
        Block.analyze_withoutSymbols]
    · intro body
      simp only [fill, Stmt.analyze, run_bind_value, StateT.run_pure, Traced.value_pure,
        enterScope_run, Expr.analyze_after, left]
    · intro body
      simp only [fill, Stmt.analyze, run_bind_trace, StateT.run_pure, Traced.trace_pure,
        enterScope_run, Expr.analyze_after, leaveScope_body_trace, left, List.append_nil,
        List.append_assoc, List.cons_append, List.nil_append]
  | whileDo cond =>
    have steps : (fun body => ((whileDo cond).fill body).analyze.run table) =
        fun body => (Stmt.analyzeGuarded cond body .whileDo).run table := by
      funext body
      rw [fill, Stmt.analyze]
      rfl
    rw [steps]
    refine ⟨whileDo (cond.analyze.run table).value.1, _, _, ?_,
      Stmt.analyzeGuarded_encloses cond .whileDo table⟩
    rw [withoutSymbols, withoutSymbols, cond.analyze_withoutSymbols]

/-! ### Lists that are analysed in two parts -/

theorem Stmt.analyzeList_append_value (first second : List Stmt) (table : SymbolTable) :
    ((Stmt.analyzeList (first ++ second)).run table).value.1 =
      ((Stmt.analyzeList first).run table).value.1 ++
        ((Stmt.analyzeList second).run table).value.1 := by
  induction first with
  | nil =>
    rw [List.nil_append, Stmt.analyzeList]
    rfl
  | cons stmt rest inductionHypothesis =>
    simp only [List.cons_append, Stmt.analyzeList, run_bind_value, StateT.run_pure,
      Traced.value_pure, Stmt.analyze_after, inductionHypothesis]

theorem Stmt.analyzeList_append_trace (first second : List Stmt) (table : SymbolTable) :
    ((Stmt.analyzeList (first ++ second)).run table).trace =
      ((Stmt.analyzeList first).run table).trace ++
        ((Stmt.analyzeList second).run table).trace := by
  induction first with
  | nil =>
    rw [List.nil_append, Stmt.analyzeList]
    rfl
  | cons stmt rest inductionHypothesis =>
    simp only [List.cons_append, Stmt.analyzeList, run_bind_trace, StateT.run_pure,
      Traced.trace_pure, Stmt.analyze_after, inductionHypothesis, List.append_nil,
      List.append_assoc]

theorem Decl.analyzeList_append_value (first second : List Decl) (table : SymbolTable) :
    ((Decl.analyzeList (first ++ second)).run table).value.1 =
      ((Decl.analyzeList first).run table).value.1 ++
        ((Decl.analyzeList second).run ((Decl.analyzeList first).run table).value.2).value.1 := by
  induction first generalizing table with
  | nil =>
    rw [List.nil_append, Decl.analyzeList]
    rfl
  | cons decl rest inductionHypothesis =>
    simp only [List.cons_append, Decl.analyzeList, run_bind_value, StateT.run_pure,
      Traced.value_pure, inductionHypothesis]

theorem Decl.analyzeList_append_trace (first second : List Decl) (table : SymbolTable) :
    ((Decl.analyzeList (first ++ second)).run table).trace =
      ((Decl.analyzeList first).run table).trace ++
        ((Decl.analyzeList second).run ((Decl.analyzeList first).run table).value.2).trace := by
  induction first generalizing table with
  | nil =>
    rw [List.nil_append, Decl.analyzeList]
    rfl
  | cons decl rest inductionHypothesis =>
    simp only [List.cons_append, Decl.analyzeList, run_bind_trace, run_bind_value, StateT.run_pure,
      Traced.trace_pure, Traced.value_pure, inductionHypothesis, List.append_nil, List.append_assoc]

/-! ### Bodies of functions -/

/-- A function takes up its body behind its formals, in the scope that it shares with them. -/
theorem Function.analyze_encloses (ret : TypeName) (name : Ident) (formals : List Formal)
    (table : SymbolTable) :
    ∃ before after : Trace,
      Encloses (fun body => (Function.mk ret name formals body).analyze.run table)
        (acceptAll (accept table (name.name, .function (signatureOf ret formals))).push
          (bindingsOf (formals.map Formal.introduction)))
        (Function.mk ret name formals) before after := by
  let next := accept table (name.name, .function (signatureOf ret formals))
  refine ⟨((declareDefinition name (.function (signatureOf ret formals))
        (some (.declaredFunction name.name))).run table).trace ++
      [.scopeEntered next.push.depth] ++ ((Formal.declareList formals).run next.push).trace,
    [.scopeLeft next.depth], ?_, ?_⟩
  · intro body
    simp only [Function.analyze_eq, run_bind_value, StateT.run_pure, Traced.value_pure,
      Formal.declareList_after, enterScope_run, declareDefinition_after]
  · intro body
    simp only [Function.analyze_eq, run_bind_trace, StateT.run_pure, Traced.trace_pure,
      Formal.declareList_after, enterScope_run, declareDefinition_after, leaveScope_block_trace,
      List.append_nil, List.append_assoc, next]

/-- The declarations around a function are analysed in the same way whatever its body is. -/
theorem FunctionGap.fill_encloses (gap : FunctionGap) (table : SymbolTable) :
    ∃ (bound : FunctionGap) (before after : Trace), bound.withoutSymbols = gap.withoutSymbols ∧
      Encloses (fun body => (Decl.analyzeList (gap.fill body)).run table) (gap.enter table)
        bound.fill before after := by
  obtain ⟨first, ret, name, formals, rest⟩ := gap
  let start := acceptAll table (bindingsOf (first.map Decl.introduction))
  let next := accept start (name.name, .function (signatureOf ret formals))
  obtain ⟨before, after, function⟩ := Function.analyze_encloses ret name formals start
  have reached : enter ⟨first, ret, name, formals, rest⟩ table =
      acceptAll next.push (bindingsOf (formals.map Formal.introduction)) := by
    rw [enter, bindingsOf_append, Declarable.acceptAll_append]
    rfl
  rw [reached]
  refine ⟨⟨((Decl.analyzeList first).run table).value.1, ret, name, formals,
      ((Decl.analyzeList rest).run next).value.1⟩,
    ((Decl.analyzeList first).run table).trace ++ before,
    after ++ ((Decl.analyzeList rest).run next).trace, ?_, ?_, ?_⟩
  · simp only [withoutSymbols, Decl.analyzeList_withoutSymbols]
  · intro body
    simp only [fill, Decl.analyzeList_append_value, Decl.analyzeList, Decl.analyze, run_bind_value,
      StateT.run_pure, Traced.value_pure, Decl.analyzeList_after, Function.analyze_after]
    rw [function.value body]
  · intro body
    simp only [fill, Decl.analyzeList_append_trace, Decl.analyzeList, Decl.analyze,
      run_bind_trace, run_bind_value, StateT.run_pure, Traced.value_pure, Traced.trace_pure,
      Decl.analyzeList_after, Function.analyze_after, List.append_nil]
    rw [function.trace body]
    simp only [List.append_assoc, next, start]

theorem BlockGap.fill_encloses (gap : BlockGap) (table : SymbolTable) :
    ∃ (bound : BlockGap) (before after : Trace), bound.withoutSymbols = gap.withoutSymbols ∧
      Encloses (fun body => (gap.fill body).analyze.run table) (gap.enter table) bound.fill before
        after := by
  cases gap with
  | decls gap stmts =>
    obtain ⟨bound, before, after, same, encloses⟩ := gap.fill_encloses table
    let next := acceptAll table (bindingsOf (gap.before.map Decl.introduction ++
      .function gap.ret gap.name gap.formals :: gap.after.map Decl.introduction))
    have left (body : Block) : ((Decl.analyzeList (gap.fill body)).run table).value.2 = next := by
      rw [Decl.analyzeList_after, FunctionGap.fill, List.map_append]
      rfl
    refine ⟨.decls bound ((Stmt.analyzeList stmts).run next).value.1, before,
      after ++ ((Stmt.analyzeList stmts).run next).trace, ?_, ?_, ?_⟩
    · simp only [withoutSymbols, Stmt.analyzeList_withoutSymbols, same]
    · intro body
      simp only [fill, Block.analyze, run_bind_value, StateT.run_pure, Traced.value_pure, left]
      rw [encloses.value body]
      rfl
    · intro body
      simp only [fill, Block.analyze, run_bind_trace, StateT.run_pure, Traced.trace_pure, left,
        List.append_nil]
      rw [encloses.trace body]
      simp only [List.append_assoc, enter]
  | stmts locals first gap rest =>
    let start := acceptAll table (bindingsOf (locals.map Decl.introduction))
    obtain ⟨bound, before, after, same, encloses⟩ := gap.fill_encloses start
    refine ⟨.stmts ((Decl.analyzeList locals).run table).value.1
        ((Stmt.analyzeList first).run start).value.1 bound
        ((Stmt.analyzeList rest).run start).value.1,
      ((Decl.analyzeList locals).run table).trace ++ ((Stmt.analyzeList first).run start).trace ++
        before,
      after ++ ((Stmt.analyzeList rest).run start).trace, ?_, ?_, ?_⟩
    · simp only [withoutSymbols, Decl.analyzeList_withoutSymbols, Stmt.analyzeList_withoutSymbols,
        same]
    · intro body
      simp only [fill, Block.analyze, Stmt.analyzeList_append_value, Stmt.analyzeList,
        run_bind_value, StateT.run_pure, Traced.value_pure, Decl.analyzeList_after,
        Stmt.analyze_after]
      rw [encloses.value body]
      rfl
    · intro body
      simp only [fill, Block.analyze, Stmt.analyzeList_append_trace, Stmt.analyzeList,
        run_bind_trace, StateT.run_pure, Traced.trace_pure, Decl.analyzeList_after,
        Stmt.analyze_after, List.append_nil]
      rw [encloses.trace body]
      simp only [List.append_assoc]
      rfl

/-- A body at any depth in a block. -/
theorem BlockGap.fillAll_encloses (gaps : List BlockGap) (table : SymbolTable) :
    ∃ (bound : List BlockGap) (before after : Trace),
      bound.map BlockGap.withoutSymbols = gaps.map BlockGap.withoutSymbols ∧
      Encloses (fun body => (gaps.foldr BlockGap.fill body).analyze.run table)
        (gaps.foldl (fun table gap => gap.enter table) table)
        (fun body => bound.foldr BlockGap.fill body) before after := by
  induction gaps generalizing table with
  | nil => exact ⟨[], [], [], rfl, fun _ => rfl, fun _ => (List.append_nil _).symm⟩
  | cons gap rest inductionHypothesis =>
    obtain ⟨bound, before, after, same, outer⟩ := gap.fill_encloses table
    obtain ⟨boundRest, beforeRest, afterRest, sameRest, inner⟩ :=
      inductionHypothesis (gap.enter table)
    refine ⟨bound :: boundRest, before ++ beforeRest, afterRest ++ after, ?_, outer.comp inner⟩
    rw [List.map_cons, List.map_cons, same, sameRest]

/-! ### Whole programs -/

/-- Whatever body is put into a gap, it is taken up in the same table, and the same happens around
it. -/
theorem Gap.fill_check (gap : Gap) :
    ∃ (bound : Gap) (before after : List Diagnostic), bound.withoutSymbols = gap.withoutSymbols ∧
      ∀ body : Block,
        (gap.fill body).check.2.entries =
          before ++ (body.analyze.run gap.table).trace.diagnostics ++ after ∧
        (gap.fill body).check.1 = bound.fill (body.analyze.run gap.table).value.1 := by
  obtain ⟨outermost, inner⟩ := gap
  obtain ⟨bound, before, after, same, outer⟩ := outermost.fill_encloses SymbolTable.new
  obtain ⟨boundInner, beforeInner, afterInner, sameInner, enclosed⟩ :=
    BlockGap.fillAll_encloses inner (outermost.enter SymbolTable.new)
  have whole := outer.comp enclosed
  refine ⟨⟨bound, boundInner⟩, Trace.diagnostics (before ++ beforeInner),
    Trace.diagnostics (afterInner ++ after), ?_, fun body => ⟨?_, ?_⟩⟩
  · rw [withoutSymbols, withoutSymbols, same, sameInner]
  · rw [Program.check_entries, ← Trace.diagnostics_append, ← Trace.diagnostics_append]
    exact congrArg Trace.diagnostics (whole.trace body)
  · exact congrArg Program.mk (whole.value body)

/-- A body does not interfere with the rest of its program. Each body of a program can be taken out,
which leaves a gap. Whatever body is put into a gap, the analysis reports of the body what it
reports of it in the table of the gap, between errors that are the same for every body; and around
the analysed body there is the same program, the one of the gap, with symbols that do not depend on
the body. -/
theorem Program.bodies_isolated :
    (∀ program : Program, ∀ body ∈ program.bodies, ∃ gap : Gap, gap.fill body = program) ∧
      ∀ gap : Gap, ∃ (bound : Gap) (before after : List Diagnostic),
        bound.withoutSymbols = gap.withoutSymbols ∧
        ∀ body : Block,
          (gap.fill body).check.2.entries =
            before ++ (body.analyze.run gap.table).trace.diagnostics ++ after ∧
          (gap.fill body).check.1 = bound.fill (body.analyze.run gap.table).value.1 :=
  ⟨Program.gap_of_body, Gap.fill_check⟩

/-- A variable that is declared in one branch is not there in the other one, and not behind both. -/
example :
    let name : Ident := { name := "k", pos := ⟨1, 1⟩ }
    let gap : Gap := {
      outermost := ⟨[], .void, { name := "f", pos := ⟨1, 1⟩ }, [], []⟩
      inner := [.stmts [] [] (.thenBranch (.truth true ⟨1, 1⟩) ⟨[], [.write (.id name)]⟩)
        [.write (.id name)]] }
    let body : Block := ⟨[.var { type := .integer, name }], [.write (.id name)]⟩
    (gap.fill body).check.2.entries = [⟨.undeclared, name.pos⟩, ⟨.undeclared, name.pos⟩] := by
  decide

end NameBinding
