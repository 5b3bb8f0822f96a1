/-
This file compares what happens during an analysis with the tree that it leaves. Each time a
reference is bound this is an event, with the symbol as it is at that moment. In a tree without
symbols these events are the bound references of the tree that comes out, in the order of the text,
so a symbol on a reference is never filled in behind the back of the binding. No other step binds a
reference, and no step finds a function that has the types of its parameters already when they are
to be attached.
-/

import Mathlib.Logic.Basic
import NameBinding.Proofs.Accounts

namespace NameBinding

/-! ### Events of bindings -/

namespace Event

/-- The reference that was bound, with its symbol, if this was what happened. -/
def boundReference? : Event → Option Ident
  | bound name pos symbol => some ⟨name, pos, some symbol⟩
  | _ => none

/-- Whether this is neither the binding of a reference nor an attaching that was refused. -/
def isAside : Event → Bool
  | bound _ _ _ => false
  | attachRefused _ => false
  | _ => true

end Event

namespace Trace

/-- The references that were bound, with their symbols. -/
def bindings (trace : Trace) : List Ident :=
  trace.filterMap Event.boundReference?

/-- The functions whose parameters could not be attached. -/
def refusals (trace : Trace) : List String :=
  trace.filterMap fun
    | .attachRefused name => some name
    | _ => none

end Trace

namespace Visit

/-- The reference that was met, if it was one and is bound. -/
def boundReference? : Visit → Option Ident
  | ident occurrence .reference => if occurrence.isBound then some occurrence else none
  | _ => none

end Visit

/-- Whether no reference is bound in a trace, and no attaching refused. -/
def Trace.IsAside (trace : Trace) : Prop :=
  ∀ event ∈ trace, event.isAside = true

/-- Whether the references that are bound in a trace are those that are bound in a tree, and no
attaching was refused. -/
structure BindsAs (trace : Trace) (visits : List Visit) : Prop where
  bindings : trace.bindings = visits.filterMap Visit.boundReference?
  attached : trace.refusals = []

namespace Trace.IsAside

theorem nil : Trace.IsAside [] := nofun

theorem single {event : Event} (aside : event.isAside = true) : Trace.IsAside [event] :=
  List.forall_mem_singleton.mpr aside

theorem append {first second : Trace} (aside : first.IsAside) (aside' : second.IsAside) :
    (first ++ second).IsAside :=
  List.forall_mem_append.mpr ⟨aside, aside'⟩

/-- A trace without bindings goes with a part of a tree that has no bound references. -/
theorem bindsAs {trace : Trace} (aside : trace.IsAside) {visits : List Visit}
    (unbound : ∀ visit ∈ visits, visit.boundReference? = none) : BindsAs trace visits := by
  refine ⟨?_, List.filterMap_eq_nil_iff.mpr fun event member => ?_⟩
  · rw [List.filterMap_eq_nil_iff.mpr unbound]
    refine List.filterMap_eq_nil_iff.mpr fun event member => ?_
    have plain := aside event member
    cases event with
    | bound name pos symbol => exact nomatch plain
    | _ => rfl
  · have plain := aside event member
    cases event with
    | attachRefused name => exact nomatch plain
    | _ => rfl

end Trace.IsAside

namespace BindsAs

theorem nil : BindsAs [] [] := ⟨rfl, rfl⟩

theorem append {first second : Trace} {visits visits' : List Visit}
    (binds : BindsAs first visits) (binds' : BindsAs second visits') :
    BindsAs (first ++ second) (visits ++ visits') := by
  refine ⟨?_, ?_⟩
  · rw [Trace.bindings, List.filterMap_append, List.filterMap_append]
    exact congrArg₂ (· ++ ·) binds.bindings binds'.bindings
  · rw [Trace.refusals, List.filterMap_append]
    exact congrArg₂ (· ++ ·) binds.attached binds'.attached

/-- What happens before and after a part of a tree is met need not be about the part. -/
theorem between {before trace after : Trace} {visits : List Visit} (binds : BindsAs trace visits)
    (opening : before.IsAside) (closing : after.IsAside) :
    BindsAs (before ++ trace ++ after) visits := by
  have opens : BindsAs before [] := opening.bindsAs nofun
  have closes : BindsAs after [] := closing.bindsAs nofun
  have whole := (opens.append binds).append closes
  rwa [List.nil_append, List.append_nil] at whole

end BindsAs

/-! ### Expressions -/

theorem Visit.boundReference?_of_fresh (visit : Visit) (fresh : visit.isFresh = true) :
    visit.boundReference? = none := by
  cases visit with
  | ident occurrence role =>
    have unbound : occurrence.isBound = false := Bool.not_eq_true' _ ▸ fresh
    cases role with
    | reference => rw [boundReference?, unbound]; rfl
    | _ => rfl
  | access base field exposed => rfl

theorem Ident.resolve_bindsAs (table : SymbolTable) (ident : Ident)
    (fresh : (!ident.isBound) = true) :
    BindsAs (ident.resolve table).trace [.ident (ident.resolve table).value .reference] := by
  have unbound := Visit.boundReference?_of_fresh (.ident ident .reference) fresh
  unfold resolve
  split
  · exact ⟨rfl, rfl⟩
  · exact (Trace.IsAside.single rfl).bindsAs (List.forall_mem_singleton.mpr unbound)
  · exact (Trace.IsAside.single rfl).bindsAs (List.forall_mem_singleton.mpr unbound)

namespace Expr

theorem selectable_isAside (table : SymbolTable) (pos : Position) (base : Expr) :
    (base.selectable table pos).trace.IsAside := by
  unfold selectable
  split
  · split
    · exact .nil
    · split
      · exact .nil
      · exact .single rfl
  · split
    · exact .nil
    · exact .single rfl
  · split
    · exact .single rfl
    · exact .nil
  · exact .single rfl

/-- Selecting a field binds no reference, and leaves the base as it is. -/
theorem select_bindsAs (table : SymbolTable) (base : Expr) (field : Ident)
    (exposed : Option Symbol) (fields : FieldTable) :
    ∃ field' exposed', (base.select table field exposed fields).value =
        .access base field' exposed' ∧
      (base.select table field exposed fields).trace.IsAside := by
  unfold select
  split
  · exact ⟨_, _, rfl, .single rfl⟩
  · exact ⟨_, _, rfl, .single rfl⟩

mutual

theorem resolve_bindsAs (table : SymbolTable) : ∀ expr : Expr,
    (∀ visit ∈ expr.visits, visit.isFresh = true) →
      BindsAs (expr.resolve table).trace (expr.resolve table).value.visits
  | truth _ _, _ => .nil
  | id ident, fresh => by
    rw [visits, List.forall_mem_singleton] at fresh
    rw [resolve, Traced.trace_bind, Traced.trace_pure, List.append_nil]
    exact ident.resolve_bindsAs table fresh
  | intLit _ _, _ => .nil
  | strLit _ _, _ => .nil
  | access base field exposed, fresh => by
    rw [visits, List.forall_mem_append] at fresh
    have inside := resolve_bindsAs table base fresh.1
    have named := selectable_isAside table field.pos (base.resolve table).value
    rw [resolve, Traced.trace_bind, Traced.trace_bind, Traced.value_bind, Traced.value_bind]
    split
    · rename_i fields given
      obtain ⟨field', exposed', selected, aside⟩ :=
        select_bindsAs table (base.resolve table).value field exposed fields
      rw [selected, visits]
      exact inside.append ((named.append aside).bindsAs
        (List.forall_mem_cons.mpr ⟨rfl, List.forall_mem_singleton.mpr rfl⟩))
    · rw [Traced.value_pure, visits]
      exact inside.append ((named.append .nil).bindsAs
        (List.forall_mem_cons.mpr ⟨rfl, List.forall_mem_singleton.mpr rfl⟩))
  | assign lhs rhs, fresh => by
    rw [visits, List.forall_mem_append] at fresh
    simp only [resolve, visits, Traced.value_bind, Traced.trace_bind, Traced.value_pure,
      Traced.trace_pure, List.append_nil]
    exact (resolve_bindsAs table lhs fresh.1).append (resolve_bindsAs table rhs fresh.2)
  | call callee args, fresh => by
    rw [visits, List.forall_mem_cons] at fresh
    simp only [resolve, visits, Traced.value_bind, Traced.trace_bind, Traced.value_pure,
      Traced.trace_pure, List.append_nil]
    exact (callee.resolve_bindsAs table fresh.1).append (resolveList_bindsAs table args fresh.2)
  | unary _ operand, fresh => by
    rw [visits] at fresh
    simp only [resolve, visits, Traced.value_bind, Traced.trace_bind, Traced.value_pure,
      Traced.trace_pure, List.append_nil]
    exact resolve_bindsAs table operand fresh
  | binary _ lhs rhs, fresh => by
    rw [visits, List.forall_mem_append] at fresh
    simp only [resolve, visits, Traced.value_bind, Traced.trace_bind, Traced.value_pure,
      Traced.trace_pure, List.append_nil]
    exact (resolve_bindsAs table lhs fresh.1).append (resolve_bindsAs table rhs fresh.2)

theorem resolveList_bindsAs (table : SymbolTable) : ∀ exprs : List Expr,
    (∀ visit ∈ visitsOfList exprs, visit.isFresh = true) →
      BindsAs (resolveList table exprs).trace (visitsOfList (resolveList table exprs).value)
  | [], _ => .nil
  | expr :: rest, fresh => by
    rw [visitsOfList, List.forall_mem_append] at fresh
    simp only [resolveList, visitsOfList, Traced.value_bind, Traced.trace_bind, Traced.value_pure,
      Traced.trace_pure, List.append_nil]
    exact (resolve_bindsAs table expr fresh.1).append (resolveList_bindsAs table rest fresh.2)

end

theorem analyze_bindsAs (table : SymbolTable) (expr : Expr)
    (fresh : ∀ visit ∈ expr.visits, visit.isFresh = true) :
    BindsAs (expr.analyze.run table).trace (expr.analyze.run table).value.1.visits := by
  have trace : (expr.analyze.run table).trace = (expr.resolve table).trace := List.append_nil _
  rw [trace]
  exact expr.resolve_bindsAs table fresh

end Expr

/-! ### Declarations -/

theorem TypeName.check_isAside (outer : SymbolTable) (type : TypeName) :
    (type.check outer).trace.IsAside := by
  unfold check
  split
  · split
    · exact .nil
    · exact .single rfl
  · exact .nil

theorem run_bind_isAside {σ α β : Type} {first : Declaring σ α} {next : α → Declaring σ β}
    {current : σ} (aside : (first.run current).trace.IsAside)
    (aside' : ((next (first.run current).value.1).run
      (first.run current).value.2).trace.IsAside) :
    ((first >>= next).run current).trace.IsAside :=
  aside.append aside'

section

variable {σ : Type} [Declarable σ]

theorem declareSymbol_isAside (name : Ident) (symbol : Symbol) (current : σ) :
    ((declareSymbol name symbol).run current).trace.IsAside := by
  unfold declareSymbol
  refine run_bind_isAside .nil ?_
  split
  · exact .single rfl
  · refine run_bind_isAside .nil ?_
    split
    · exact .single rfl
    · exact .single rfl
    · exact .single rfl

theorem declareTyped_isAside (outer : SymbolTable) (type : TypeName) (name : Ident) (current : σ) :
    ((declareTyped outer type name).run current).trace.IsAside := by
  unfold declareTyped
  split
  · exact .single rfl
  · rw [run_lift_bind]
    exact (type.check_isAside outer).append (declareSymbol_isAside name type.symbol current)

theorem declareFields_isAside (outer : SymbolTable) (fields : List VarDecl) (current : σ) :
    ((declareFields outer fields).run current).trace.IsAside := by
  induction fields generalizing current with
  | nil => exact .nil
  | cons field rest inductionHypothesis =>
    exact run_bind_isAside (declareTyped_isAside outer field.type field.name current)
      (inductionHypothesis _)

end

theorem Formal.declareList_isAside (formals : List Formal) (table : SymbolTable) :
    ((Formal.declareList formals).run table).trace.IsAside := by
  induction formals generalizing table with
  | nil => exact .nil
  | cons formal rest inductionHypothesis =>
    exact run_bind_isAside .nil
      (run_bind_isAside (declareTyped_isAside table formal.type formal.name table)
        (inductionHypothesis _))

theorem declareDefinition_isAside (name : Ident) (symbol : Symbol) (event : Option Event)
    (aside : ∀ noted, event = some noted → noted.isAside = true) (table : SymbolTable) :
    ((declareDefinition name symbol event).run table).trace.IsAside := by
  unfold declareDefinition
  refine run_bind_isAside .nil ?_
  split
  · refine run_bind_isAside .nil ?_
    cases event with
    | none => exact .nil
    | some noted => exact .single (aside noted rfl)
  · exact .single rfl
  · exact .single rfl

theorem StructDecl.analyze_isAside (decl : StructDecl) (table : SymbolTable) :
    (decl.analyze.run table).trace.IsAside := by
  have fieldsRead : ((liftM ((declareFields (σ := FieldTable) table decl.fields).run
      Scope.empty) : Analysis (Unit × FieldTable)).run table).trace.IsAside := by
    rw [run_lift_trace]
    exact declareFields_isAside table decl.fields Scope.empty
  unfold StructDecl.analyze
  refine run_bind_isAside .nil ?_
  dsimp only
  split
  · exact run_bind_isAside (.single rfl)
      (run_bind_isAside fieldsRead (run_bind_isAside (.single rfl) .nil))
  · refine run_bind_isAside fieldsRead (run_bind_isAside (.single rfl) ?_)
    exact declareDefinition_isAside decl.name _ none nofun table

theorem enterScope_isAside (table : SymbolTable) : (enterScope.run table).trace.IsAside :=
  .single rfl

theorem leaveScope_isAside (table : SymbolTable) : (leaveScope.run table).trace.IsAside := by
  obtain ⟨scopes⟩ := table
  cases scopes with
  | nil => exact .single rfl
  | cons scope outer => exact .single rfl

/-! ### Blocks, statements and declarations -/

namespace BindsAs

theorem analyzeSingle {table : SymbolTable} {target : Expr} (rebuild : Expr → Stmt)
    (met : ∀ expr, (rebuild expr).visits = expr.visits)
    (fresh : ∀ visit ∈ target.visits, visit.isFresh = true) :
    BindsAs ((Stmt.analyzeSingle target rebuild).run table).trace
      ((Stmt.analyzeSingle target rebuild).run table).value.1.visits := by
  simp only [Stmt.analyzeSingle, run_bind_value, run_bind_trace, StateT.run_pure,
    Traced.value_pure, Traced.trace_pure, List.append_nil, met]
  exact target.analyze_bindsAs table fresh

/-- A body is analysed between the opening and the closing of its scope. -/
theorem enclosed {table : SymbolTable} {body : Block}
    (binds : BindsAs (body.analyze.run table.push).trace
      (body.analyze.run table.push).value.1.visits) :
    BindsAs ((enterScope.run table).trace ++ ((body.analyze.run table.push).trace ++
        (leaveScope.run (body.analyze.run table.push).value.2).trace))
      (body.analyze.run table.push).value.1.visits := by
  rw [← List.append_assoc]
  exact binds.between (enterScope_isAside table) (leaveScope_isAside _)

theorem analyzeGuarded {table : SymbolTable} {cond : Expr} {body : Block}
    (rebuild : Expr → Block → Stmt)
    (met : ∀ cond body, (rebuild cond body).visits = cond.visits ++ body.visits)
    (fresh : ∀ visit ∈ cond.visits, visit.isFresh = true)
    (binds : BindsAs (body.analyze.run table.push).trace
      (body.analyze.run table.push).value.1.visits) :
    BindsAs ((Stmt.analyzeGuarded cond body rebuild).run table).trace
      ((Stmt.analyzeGuarded cond body rebuild).run table).value.1.visits := by
  simp only [Stmt.analyzeGuarded, run_bind_value, run_bind_trace, Expr.analyze_after,
    StateT.run_pure, Traced.value_pure, Traced.trace_pure, List.append_nil, met]
  exact (cond.analyze_bindsAs table fresh).append binds.enclosed

end BindsAs

mutual

theorem Block.analyze_bindsAs (table : SymbolTable) : ∀ block : Block,
    (∀ visit ∈ block.visits, visit.isFresh = true) →
      BindsAs (block.analyze.run table).trace (block.analyze.run table).value.1.visits
  | ⟨decls, stmts⟩, fresh => by
    rw [Block.visits, List.forall_mem_append] at fresh
    simp only [Block.analyze, run_bind_value, run_bind_trace, StateT.run_pure, Traced.value_pure,
      Traced.trace_pure, List.append_nil]
    rw [Block.visits]
    exact (Decl.analyzeList_bindsAs table decls fresh.1).append
      (Stmt.analyzeList_bindsAs _ stmts fresh.2)

theorem Stmt.analyze_bindsAs (table : SymbolTable) : ∀ stmt : Stmt,
    (∀ visit ∈ stmt.visits, visit.isFresh = true) →
      BindsAs (stmt.analyze.run table).trace (stmt.analyze.run table).value.1.visits
  | .assign lhs rhs, fresh => by
    rw [Stmt.visits, List.forall_mem_append] at fresh
    simp only [Stmt.analyze, run_bind_value, run_bind_trace, Expr.analyze_after, StateT.run_pure,
      Traced.value_pure, Traced.trace_pure, List.append_nil]
    rw [Stmt.visits]
    exact (lhs.analyze_bindsAs table fresh.1).append (rhs.analyze_bindsAs table fresh.2)
  | .postInc target, fresh => by
    rw [Stmt.visits] at fresh
    rw [Stmt.analyze]
    exact .analyzeSingle .postInc (fun _ => by rw [Stmt.visits]) fresh
  | .postDec target, fresh => by
    rw [Stmt.visits] at fresh
    rw [Stmt.analyze]
    exact .analyzeSingle .postDec (fun _ => by rw [Stmt.visits]) fresh
  | .ifThen cond body, fresh => by
    rw [Stmt.visits, List.forall_mem_append] at fresh
    rw [Stmt.analyze]
    exact .analyzeGuarded .ifThen (fun _ _ => by rw [Stmt.visits]) fresh.1
      (Block.analyze_bindsAs table.push body fresh.2)
  | .ifElse cond thenBranch elseBranch, fresh => by
    rw [Stmt.visits, List.forall_mem_append, List.forall_mem_append] at fresh
    have closed := leaveScope_body thenBranch table (Block.analyze_after table.push thenBranch)
    have first := (Block.analyze_bindsAs table.push thenBranch fresh.1.2).enclosed
    have second := (Block.analyze_bindsAs table.push elseBranch fresh.2).enclosed
    have both := ((cond.analyze_bindsAs table fresh.1.1).append first).append second
    simp only [Stmt.analyze, run_bind_value, run_bind_trace, Expr.analyze_after, StateT.run_pure,
      Traced.value_pure, Traced.trace_pure, List.append_nil, enterScope_run, closed]
    rw [Stmt.visits]
    simpa only [List.append_assoc, enterScope_run] using both
  | .whileDo cond body, fresh => by
    rw [Stmt.visits, List.forall_mem_append] at fresh
    rw [Stmt.analyze]
    exact .analyzeGuarded .whileDo (fun _ _ => by rw [Stmt.visits]) fresh.1
      (Block.analyze_bindsAs table.push body fresh.2)
  | .read target, fresh => by
    rw [Stmt.visits] at fresh
    rw [Stmt.analyze]
    exact .analyzeSingle .read (fun _ => by rw [Stmt.visits]) fresh
  | .write value, fresh => by
    rw [Stmt.visits] at fresh
    rw [Stmt.analyze]
    exact .analyzeSingle .write (fun _ => by rw [Stmt.visits]) fresh
  | .call callee args, fresh => by
    rw [Stmt.visits] at fresh
    rw [Stmt.call_trace, Stmt.call_visits]
    exact (Expr.call callee args).analyze_bindsAs table fresh
  | .ret none, _ => by
    simp only [Stmt.analyze, StateT.run_pure, Traced.value_pure, Traced.trace_pure]
    rw [Stmt.visits]
    exact .nil
  | .ret (some value), fresh => by
    rw [Stmt.visits] at fresh
    rw [Stmt.analyze]
    exact .analyzeSingle (fun value => .ret (some value)) (fun _ => by rw [Stmt.visits]) fresh

theorem Stmt.analyzeList_bindsAs (table : SymbolTable) : ∀ stmts : List Stmt,
    (∀ visit ∈ Stmt.visitsOfList stmts, visit.isFresh = true) →
      BindsAs ((Stmt.analyzeList stmts).run table).trace
        (Stmt.visitsOfList ((Stmt.analyzeList stmts).run table).value.1)
  | [], _ => by
    simp only [Stmt.analyzeList, StateT.run_pure, Traced.value_pure, Traced.trace_pure]
    rw [Stmt.visitsOfList]
    exact .nil
  | stmt :: rest, fresh => by
    rw [Stmt.visitsOfList, List.forall_mem_append] at fresh
    simp only [Stmt.analyzeList, run_bind_value, run_bind_trace, StateT.run_pure,
      Traced.value_pure, Traced.trace_pure, List.append_nil]
    rw [Stmt.visitsOfList]
    exact (Stmt.analyze_bindsAs table stmt fresh.1).append
      (Stmt.analyzeList_bindsAs _ rest fresh.2)

theorem Function.analyze_bindsAs (table : SymbolTable) : ∀ decl : Function,
    (∀ visit ∈ decl.visits, visit.isFresh = true) →
      BindsAs (decl.analyze.run table).trace (decl.analyze.run table).value.1.visits
  | ⟨ret, name, formals, body⟩, fresh => by
    rw [Function.visits, List.forall_mem_append] at fresh
    have heading := (Trace.IsAside.nil).bindsAs fun visit member =>
      visit.boundReference?_of_fresh (fresh.1 visit member)
    have declared := declareDefinition_isAside name (.function (signatureOf ret formals))
      (some (.declaredFunction name.name)) (fun _ same => by cases same; rfl) table
    simp only [Function.analyze_eq, run_bind_value, run_bind_trace, StateT.run_pure,
      Traced.value_pure, Traced.trace_pure, List.append_nil]
    rw [Function.visits]
    simp only [← List.append_assoc]
    show BindsAs ([] ++ _) _
    exact heading.append ((Block.analyze_bindsAs _ body fresh.2).between
      ((declared.append (enterScope_isAside _)).append (Formal.declareList_isAside formals _))
      (leaveScope_isAside _))

theorem Decl.analyze_bindsAs (table : SymbolTable) : ∀ decl : Decl,
    (∀ visit ∈ decl.visits, visit.isFresh = true) →
      BindsAs (decl.analyze.run table).trace (decl.analyze.run table).value.1.visits
  | .var decl, fresh => by
    rw [Decl.visits] at fresh
    have declared := declareTyped_isAside table decl.type decl.name table
    have value : ((Decl.var decl).analyze.run table).value.1 = .var decl := by
      rw [Decl.analyze]
      rfl
    have trace : ((Decl.var decl).analyze.run table).trace =
        ((declareTyped table decl.type decl.name).run table).trace := by
      rw [Decl.analyze]
      exact List.append_nil _
    rw [value, trace, Decl.visits]
    exact declared.bindsAs fun visit member => visit.boundReference?_of_fresh (fresh visit member)
  | .func decl, fresh => by
    rw [Decl.visits] at fresh
    simp only [Decl.analyze, run_bind_value, run_bind_trace, StateT.run_pure, Traced.value_pure,
      Traced.trace_pure, List.append_nil]
    rw [Decl.visits]
    exact Function.analyze_bindsAs table decl fresh
  | .struct decl, fresh => by
    rw [Decl.visits] at fresh
    simp only [Decl.analyze, run_bind_value, run_bind_trace, StateT.run_pure, Traced.value_pure,
      Traced.trace_pure, List.append_nil]
    rw [Decl.visits]
    exact (decl.analyze_isAside table).bindsAs fun visit member =>
      visit.boundReference?_of_fresh (fresh visit member)

theorem Decl.analyzeList_bindsAs (table : SymbolTable) : ∀ decls : List Decl,
    (∀ visit ∈ Decl.visitsOfList decls, visit.isFresh = true) →
      BindsAs ((Decl.analyzeList decls).run table).trace
        (Decl.visitsOfList ((Decl.analyzeList decls).run table).value.1)
  | [], _ => by
    simp only [Decl.analyzeList, StateT.run_pure, Traced.value_pure, Traced.trace_pure]
    rw [Decl.visitsOfList]
    exact .nil
  | decl :: rest, fresh => by
    rw [Decl.visitsOfList, List.forall_mem_append] at fresh
    simp only [Decl.analyzeList, run_bind_value, run_bind_trace, StateT.run_pure,
      Traced.value_pure, Traced.trace_pure, List.append_nil]
    rw [Decl.visitsOfList]
    exact (Decl.analyze_bindsAs table decl fresh.1).append
      (Decl.analyzeList_bindsAs _ rest fresh.2)

end

end NameBinding
