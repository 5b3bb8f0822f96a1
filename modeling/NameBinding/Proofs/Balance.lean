/-
This file proves that an analysis keeps the stack of scopes in balance. Every scope that it opens it
closes again, so a closing is refused only if it is asked for from outside, and no part of an
analysis touches a scope other than the innermost one of the table that it was given. That scope
keeps all its names with what they stand for, and gains names only by the declarations that stand in
it directly. In a sequence of steps the number of scopes is therefore the balance of those that were
opened and those that were closed, with the refused closings set apart.
-/

import NameBinding.Session
import NameBinding.Proofs.Tables

namespace NameBinding

open Declarable (accept acceptAll)

/-! ### Names that a table gains -/

/-- Which names a table has gained from one state to another. The innermost scope has them behind
those that it had, each of them is new to it, and nothing else has changed. -/
inductive SymbolTable.Gains : SymbolTable → List (String × Symbol) → SymbolTable → Prop
  /-- Without a scope nothing can be gained. -/
  | noScope : Gains ⟨[]⟩ [] ⟨[]⟩
  | innermost (scope : Scope Symbol) (outer : List (Scope Symbol)) (added : List (String × Symbol))
      (unknown : ∀ entry ∈ added, scope.find? entry.1 = none)
      (distinct : (added.map Prod.fst).Nodup) :
      Gains ⟨scope :: outer⟩ added ⟨⟨scope.entries ++ added⟩ :: outer⟩

namespace SymbolTable

theorem Gains.refl (table : SymbolTable) : table.Gains [] table := by
  obtain ⟨scopes⟩ := table
  cases scopes with
  | nil => exact .noScope
  | cons scope outer =>
    have gained := Gains.innermost scope outer [] nofun List.nodup_nil
    rwa [List.append_nil] at gained

/-- A name that is not in a scope with more names is neither in the scope nor among them. -/
theorem find?_append_eq_none (scope : Scope Symbol) (added : List (String × Symbol)) (name : String)
    (absent : Scope.find? ⟨scope.entries ++ added⟩ name = none) :
    scope.find? name = none ∧ name ∉ added.map Prod.fst := by
  simp only [Scope.find?, List.lookup_append, Option.or_eq_none_iff] at absent ⊢
  refine ⟨absent.1, fun member => ?_⟩
  obtain ⟨entry, among, same⟩ := List.mem_map.mp member
  have missed := List.lookup_eq_none_iff.mp absent.2 entry among
  simp [same] at missed

/-- What is gained in two steps is gained in one. -/
theorem Gains.trans {first second third : SymbolTable} {added more : List (String × Symbol)}
    (gained : first.Gains added second) (again : second.Gains more third) :
    first.Gains (added ++ more) third := by
  cases gained with
  | noScope => cases again; exact .noScope
  | innermost scope outer _ unknown distinct =>
    cases again with
    | innermost _ _ _ stillUnknown stillDistinct =>
      have absent := fun entry member =>
        find?_append_eq_none scope added entry.1 (stillUnknown entry member)
      have joined := Gains.innermost scope outer (added ++ more) ?_ ?_
      · rwa [← List.append_assoc] at joined
      · intro entry member
        rcases List.mem_append.mp member with early | late
        · exact unknown entry early
        · exact (absent entry late).1
      · rw [List.map_append, List.nodup_append]
        refine ⟨distinct, stillDistinct, ?_⟩
        rintro name early _ late rfl
        obtain ⟨entry, member, rfl⟩ := List.mem_map.mp late
        exact (absent entry member).2 early

/-- Declaring one name gains it, or nothing if the name is taken. -/
theorem accept_gains (table : SymbolTable) (binding : String × Symbol) :
    ∃ added, table.Gains added (accept table binding) ∧ added.Sublist [binding] := by
  obtain ⟨scopes⟩ := table
  cases scopes with
  | nil => exact ⟨[], .refl _, List.nil_sublist _⟩
  | cons scope outer =>
    rw [accept_cons]
    have declared : Declarable.declare (σ := FieldTable) scope binding.1 binding.2 =
        scope.declare binding.1 binding.2 := rfl
    rw [accept, declared, Scope.declare]
    cases located : scope.find? binding.1 with
    | some found => exact ⟨[], .refl _, List.nil_sublist _⟩
    | none =>
      refine ⟨[binding], .innermost scope outer [binding] ?_ (by simp),
        List.Sublist.refl _⟩
      intro entry member
      obtain rfl := List.mem_singleton.mp member
      exact located

/-- Declaring names gains some of them, in their order. -/
theorem acceptAll_gains (table : SymbolTable) (bindings : List (String × Symbol)) :
    ∃ added, table.Gains added (acceptAll table bindings) ∧ added.Sublist bindings := by
  induction bindings generalizing table with
  | nil => exact ⟨[], .refl table, List.Sublist.refl _⟩
  | cons binding rest inductionHypothesis =>
    obtain ⟨first, gained, listed⟩ := table.accept_gains binding
    obtain ⟨later, gainedLater, listedLater⟩ := inductionHypothesis (accept table binding)
    exact ⟨first ++ later, gained.trans gainedLater, listed.append listedLater⟩

/-- However many names a table gains, it has as many scopes as before. -/
theorem Gains.depth {before after : SymbolTable} {added : List (String × Symbol)}
    (gained : before.Gains added after) : after.depth = before.depth := by
  cases gained <;> rfl

theorem acceptAll_depth (table : SymbolTable) (bindings : List (String × Symbol)) :
    (acceptAll table bindings).depth = table.depth := by
  obtain ⟨added, gained, -⟩ := table.acceptAll_gains bindings
  exact gained.depth

end SymbolTable

/-! ### Steps without a refused closing -/

namespace Trace

@[simp] theorem underflows_append (first second : Trace) :
    Trace.underflows (first ++ second) = first.underflows + second.underflows := by
  rw [underflows, List.filter_append, List.length_append]
  rfl

end Trace

/-- Whether no closing of a scope is refused on the way. -/
def Traced.IsSteady {α : Type} (step : Traced α) : Prop :=
  step.trace.underflows = 0

section

variable {σ α β : Type}

theorem Traced.IsSteady.bind {first : Traced α} {next : α → Traced β} (steady : first.IsSteady)
    (steadyNext : (next first.value).IsSteady) : (first >>= next).IsSteady := by
  rw [IsSteady, Traced.trace_bind, Trace.underflows_append, steady, steadyNext]

theorem Traced.IsSteady.run_bind {first : Declaring σ α} {next : α → Declaring σ β} {current : σ}
    (steady : (first.run current).IsSteady)
    (steadyNext :
      ((next (first.run current).value.1).run (first.run current).value.2).IsSteady) :
    ((first >>= next).run current).IsSteady := by
  rw [StateT.run_bind]
  exact steady.bind steadyNext

theorem Traced.IsSteady.lift {step : Traced α} (steady : step.IsSteady) (current : σ) :
    ((liftM step : Declaring σ α).run current).IsSteady := by
  rw [IsSteady, run_lift_trace]
  exact steady

end

open Traced (IsSteady)

/-! ### Expressions -/

theorem Ident.resolve_isSteady (table : SymbolTable) (ident : Ident) :
    (ident.resolve table).IsSteady := by
  unfold resolve
  split <;> rfl

namespace Expr

theorem selectable_isSteady (table : SymbolTable) (pos : Position) (base : Expr) :
    (base.selectable table pos).IsSteady := by
  unfold selectable
  split
  · split
    · rfl
    · split <;> rfl
  · split <;> rfl
  · split <;> rfl
  · rfl

theorem select_isSteady (table : SymbolTable) (base : Expr) (field : Ident)
    (exposed : Option Symbol) (fields : FieldTable) :
    (base.select table field exposed fields).IsSteady := by
  unfold select
  split <;> rfl

mutual

theorem resolve_isSteady (table : SymbolTable) : ∀ expr : Expr, (expr.resolve table).IsSteady
  | truth _ _ => rfl
  | id ident => (ident.resolve_isSteady table).bind rfl
  | intLit _ _ => rfl
  | strLit _ _ => rfl
  | access base field exposed => by
    rw [resolve]
    refine (resolve_isSteady table base).bind ((selectable_isSteady table _ _).bind ?_)
    split
    · exact select_isSteady table _ field exposed _
    · rfl
  | assign lhs rhs => (resolve_isSteady table lhs).bind ((resolve_isSteady table rhs).bind rfl)
  | call callee args =>
    (callee.resolve_isSteady table).bind ((resolveList_isSteady table args).bind rfl)
  | unary _ operand => (resolve_isSteady table operand).bind rfl
  | binary _ lhs rhs => (resolve_isSteady table lhs).bind ((resolve_isSteady table rhs).bind rfl)

theorem resolveList_isSteady (table : SymbolTable) :
    ∀ exprs : List Expr, (resolveList table exprs).IsSteady
  | [] => rfl
  | expr :: rest => (resolve_isSteady table expr).bind ((resolveList_isSteady table rest).bind rfl)

end

theorem analyze_isSteady (expr : Expr) (table : SymbolTable) :
    (expr.analyze.run table).IsSteady :=
  (expr.resolve_isSteady table).lift table

end Expr

/-! ### Declarations -/

theorem TypeName.check_isSteady (outer : SymbolTable) (type : TypeName) :
    (type.check outer).IsSteady := by
  unfold check
  split
  · split <;> rfl
  · rfl

section

variable {σ : Type} [Declarable σ]

theorem declareSymbol_isSteady (name : Ident) (symbol : Symbol) (current : σ) :
    ((declareSymbol name symbol).run current).IsSteady := by
  unfold declareSymbol
  refine IsSteady.run_bind rfl ?_
  split
  · rfl
  · refine IsSteady.run_bind rfl ?_
    split <;> rfl

theorem declareTyped_isSteady (outer : SymbolTable) (type : TypeName) (name : Ident) (current : σ) :
    ((declareTyped outer type name).run current).IsSteady := by
  unfold declareTyped
  split
  · rfl
  · exact ((type.check_isSteady outer).lift current).run_bind (declareSymbol_isSteady name _ _)

theorem declareFields_isSteady (outer : SymbolTable) (fields : List VarDecl) (current : σ) :
    ((declareFields outer fields).run current).IsSteady := by
  induction fields generalizing current with
  | nil => rfl
  | cons field rest inductionHypothesis =>
    exact (declareTyped_isSteady outer field.type field.name current).run_bind
      (inductionHypothesis _)

end

theorem declareMembers_isSteady (outer : SymbolTable) (decls : List Decl) (fields : FieldTable) :
    ((declareMembers outer decls).run fields).IsSteady := by
  induction decls generalizing fields with
  | nil => rfl
  | cons decl rest inductionHypothesis =>
    cases decl with
    | var decl =>
      exact (declareTyped_isSteady outer decl.type decl.name fields).run_bind
        (inductionHypothesis _)
    | func decl => exact IsSteady.run_bind rfl (inductionHypothesis _)
    | struct decl => exact IsSteady.run_bind rfl (inductionHypothesis _)

theorem Formal.declareList_isSteady (formals : List Formal) (table : SymbolTable) :
    ((Formal.declareList formals).run table).IsSteady := by
  induction formals generalizing table with
  | nil => rfl
  | cons formal rest inductionHypothesis =>
    exact IsSteady.run_bind rfl
      ((declareTyped_isSteady table formal.type formal.name table).run_bind
        (inductionHypothesis _))

theorem declareDefinition_isSteady (name : Ident) (symbol : Symbol) (event : Option Event)
    (table : SymbolTable) (other : event ≠ some .leaveRefused) :
    ((declareDefinition name symbol event).run table).IsSteady := by
  unfold declareDefinition
  refine IsSteady.run_bind rfl ?_
  split
  · refine IsSteady.run_bind rfl ?_
    cases event with
    | none => rfl
    | some event =>
      cases event with
      | leaveRefused => exact absurd rfl other
      | _ => rfl
  · rfl
  · rfl

theorem StructDecl.analyze_isSteady (decl : StructDecl) (table : SymbolTable) :
    (decl.analyze.run table).IsSteady := by
  have fieldsRead :=
    (declareFields_isSteady (σ := FieldTable) table decl.fields Scope.empty).lift table
  unfold StructDecl.analyze
  refine IsSteady.run_bind rfl ?_
  dsimp only
  split
  · refine IsSteady.run_bind rfl (fieldsRead.run_bind (IsSteady.run_bind rfl rfl))
  · refine fieldsRead.run_bind (IsSteady.run_bind rfl ?_)
    exact declareDefinition_isSteady decl.name _ none table nofun

/-! ### Scopes that are opened and closed -/

theorem enterScope_isSteady (table : SymbolTable) : (enterScope.run table).IsSteady := rfl

/-- The scope of a body is still there when it is to be closed. -/
theorem leaveScope_isSteady (table : SymbolTable) (bindings : List (String × Symbol)) :
    (leaveScope.run (acceptAll table.push bindings)).IsSteady := by
  rw [SymbolTable.push, SymbolTable.acceptAll_cons, leaveScope_run]
  rfl

theorem leaveScope_body_isSteady (body : Block) (table : SymbolTable) :
    (leaveScope.run (body.analyze.run table.push).value.2).IsSteady := by
  rw [Block.analyze_after]
  exact leaveScope_isSteady table _

mutual

theorem Block.analyze_isSteady (table : SymbolTable) : ∀ block : Block,
    (block.analyze.run table).IsSteady
  | ⟨decls, stmts⟩ => by
    rw [Block.analyze]
    exact (Decl.analyzeList_isSteady table decls).run_bind
      ((Stmt.analyzeList_isSteady _ stmts).run_bind rfl)

theorem Stmt.analyze_isSteady (table : SymbolTable) : ∀ stmt : Stmt,
    (stmt.analyze.run table).IsSteady
  | .assign lhs rhs => by
    rw [Stmt.analyze]
    exact (lhs.analyze_isSteady table).run_bind ((rhs.analyze_isSteady _).run_bind rfl)
  | .postInc target => by
    rw [Stmt.analyze]
    exact (target.analyze_isSteady table).run_bind rfl
  | .postDec target => by
    rw [Stmt.analyze]
    exact (target.analyze_isSteady table).run_bind rfl
  | .ifThen cond body => by
    rw [Stmt.analyze]
    exact (cond.analyze_isSteady table).run_bind ((enterScope_isSteady table).run_bind
      ((Block.analyze_isSteady table.push body).run_bind
        ((leaveScope_body_isSteady body table).run_bind rfl)))
  | .ifElse cond thenBranch elseBranch => by
    rw [Stmt.analyze]
    have between := leaveScope_body thenBranch table (Block.analyze_after table.push thenBranch)
    refine (cond.analyze_isSteady table).run_bind ((enterScope_isSteady table).run_bind
      ((Block.analyze_isSteady table.push thenBranch).run_bind
        ((leaveScope_body_isSteady thenBranch table).run_bind ?_)))
    rw [between]
    exact (enterScope_isSteady table).run_bind
      ((Block.analyze_isSteady table.push elseBranch).run_bind
        ((leaveScope_body_isSteady elseBranch table).run_bind rfl))
  | .whileDo cond body => by
    rw [Stmt.analyze]
    exact (cond.analyze_isSteady table).run_bind ((enterScope_isSteady table).run_bind
      ((Block.analyze_isSteady table.push body).run_bind
        ((leaveScope_body_isSteady body table).run_bind rfl)))
  | .read target => by
    rw [Stmt.analyze]
    exact (target.analyze_isSteady table).run_bind rfl
  | .write value => by
    rw [Stmt.analyze]
    exact (value.analyze_isSteady table).run_bind rfl
  | .call callee args => by
    rw [Stmt.analyze]
    exact IsSteady.run_bind rfl (((callee.resolve_isSteady table).lift table).run_bind
      (IsSteady.run_bind rfl (((Expr.resolveList_isSteady table args).lift table).run_bind rfl)))
  | .ret none => by
    rw [Stmt.analyze]
    rfl
  | .ret (some value) => by
    rw [Stmt.analyze]
    exact (value.analyze_isSteady table).run_bind rfl

theorem Stmt.analyzeList_isSteady (table : SymbolTable) : ∀ stmts : List Stmt,
    ((Stmt.analyzeList stmts).run table).IsSteady
  | [] => by
    rw [Stmt.analyzeList]
    rfl
  | stmt :: rest => by
    rw [Stmt.analyzeList]
    exact (Stmt.analyze_isSteady table stmt).run_bind
      ((Stmt.analyzeList_isSteady _ rest).run_bind rfl)

theorem Function.analyze_isSteady (table : SymbolTable) : ∀ decl : Function,
    (decl.analyze.run table).IsSteady
  | ⟨ret, name, formals, body⟩ => by
    rw [Function.analyze_eq]
    have declared := declareDefinition_isSteady name (.function (signatureOf ret formals))
      (some (.declaredFunction name.name)) table nofun
    refine declared.run_bind
      ((enterScope_isSteady _).run_bind ((Formal.declareList_isSteady formals _).run_bind
        ((Block.analyze_isSteady _ body).run_bind (IsSteady.run_bind ?_ rfl))))
    rw [Block.analyze_after, Formal.declareList_after, enterScope_run,
      ← Declarable.acceptAll_append]
    exact leaveScope_isSteady _ _

theorem Decl.analyze_isSteady (table : SymbolTable) : ∀ decl : Decl,
    (decl.analyze.run table).IsSteady
  | .var decl => by
    rw [Decl.analyze]
    exact IsSteady.run_bind rfl
      ((declareTyped_isSteady table decl.type decl.name table).run_bind rfl)
  | .func decl => by
    rw [Decl.analyze]
    exact (Function.analyze_isSteady table decl).run_bind rfl
  | .struct decl => by
    rw [Decl.analyze]
    exact (decl.analyze_isSteady table).run_bind rfl

theorem Decl.analyzeList_isSteady (table : SymbolTable) : ∀ decls : List Decl,
    ((Decl.analyzeList decls).run table).IsSteady
  | [] => by
    rw [Decl.analyzeList]
    rfl
  | decl :: rest => by
    rw [Decl.analyzeList]
    exact (Decl.analyze_isSteady table decl).run_bind
      ((Decl.analyzeList_isSteady _ rest).run_bind rfl)

end

/-- A whole program never closes a scope that is not there. -/
theorem Program.analyze_isSteady (program : Program) : program.analyze.IsSteady :=
  IsSteady.bind rfl ((Decl.analyzeList_isSteady SymbolTable.new program.decls).bind rfl)

/-! ### Sequences of steps -/

namespace Command

/-- Whether a command opens a scope. -/
def isEnter : Command → Bool
  | enter => true
  | _ => false

/-- Whether a command asks for a scope to be closed. -/
def isLeave : Command → Bool
  | leave => true
  | _ => false

end Command

theorem Part.analyze_isSteady (part : Part) (table : SymbolTable) :
    (part.analyze.run table).IsSteady := by
  cases part with
  | decls list => exact (Decl.analyzeList_isSteady table list).run_bind rfl
  | stmt node => exact (Stmt.analyze_isSteady table node).run_bind rfl
  | expr node => exact (node.analyze_isSteady table).run_bind rfl
  | function node => exact (Function.analyze_isSteady table node).run_bind rfl

theorem Part.analyze_depth (part : Part) (table : SymbolTable) :
    (part.analyze.run table).value.2.depth = table.depth := by
  cases part with
  | decls list =>
    have after : ((Part.decls list).analyze.run table).value.2 = _ :=
      Decl.analyzeList_after table list
    rw [after, SymbolTable.acceptAll_depth]
  | stmt node =>
    have after : ((Part.stmt node).analyze.run table).value.2 = _ := Stmt.analyze_after table node
    rw [after]
  | expr node => rfl
  | function node =>
    have after : ((Part.function node).analyze.run table).value.2 = acceptAll table [_] :=
      Function.analyze_after table node
    rw [after, SymbolTable.acceptAll_depth]

/-- Whether the scopes are counted right in a step: there are as many more as were opened, less
those that were closed, but for the closings that were refused. -/
def Traced.IsBalanced {α : Type} (outcome : Traced (α × Session)) (session : Session)
    (opened closed : Nat) : Prop :=
  outcome.value.2.table.depth + closed = session.table.depth + opened + outcome.trace.underflows

/-- A step is balanced if it keeps the number of scopes and has no closing refused. -/
theorem Traced.IsSteady.isBalanced {α : Type} {outcome : Traced (α × Session)} {session : Session}
    (steady : outcome.IsSteady) (kept : outcome.value.2.table.depth = session.table.depth) :
    outcome.IsBalanced session 0 0 := by
  rw [Traced.IsBalanced, steady, kept]

theorem SymbolTable.depth_declare {table next : SymbolTable} {name : String} {symbol : Symbol}
    (declared : table.declare name symbol = .ok next) : next.depth = table.depth := by
  have accepted : accept table (name, symbol) = next := by
    have same : Declarable.declare table name symbol = table.declare name symbol := rfl
    rw [accept, same, declared]
  rw [← accepted]
  exact table.acceptAll_depth [(name, symbol)]

namespace Session

theorem onTable_isSteady {α : Type} (session : Session) {step : Analysis α}
    (steady : (step.run session.table).IsSteady) : (session.onTable step).IsSteady :=
  steady.bind rfl

theorem onFields_isSteady {α : Type} (session : Session) {step : Declaring FieldTable α}
    (steady : (step.run session.fields).IsSteady) : (session.onFields step).IsSteady :=
  steady.bind rfl

/-- Every command is balanced, with the scope that it opens or closes. -/
theorem perform_isBalanced (session : Session) (command : Command) :
    (session.perform command).IsBalanced session command.isEnter.toNat command.isLeave.toNat := by
  cases command with
  | enter => rfl
  | leave =>
    obtain ⟨⟨scopes⟩, fields, kept⟩ := session
    cases scopes with
    | nil => rfl
    | cons scope outer => rfl
  | keep part =>
    refine IsSteady.isBalanced ?_ (part.analyze_depth session.table)
    exact (session.onTable_isSteady (part.analyze_isSteady _)).bind rfl
  | again index =>
    rw [perform]
    split
    · rfl
    · rename_i part _
      refine IsSteady.isBalanced ?_ (part.analyze_depth session.table)
      exact (session.onTable_isSteady (part.analyze_isSteady _)).bind rfl
  | once part =>
    refine IsSteady.isBalanced ?_ (part.analyze_depth session.table)
    exact (session.onTable_isSteady (part.analyze_isSteady _)).bind rfl
  | program program =>
    refine IsSteady.isBalanced ?_ rfl
    exact program.analyze_isSteady.bind rfl
  | struct decl =>
    refine IsSteady.isBalanced ?_ ?_
    · exact (session.onTable_isSteady (decl.analyze_isSteady _)).bind rfl
    · exact (congrArg SymbolTable.depth (decl.analyze_after session.table)).trans
        (session.table.acceptAll_depth [_])
  | var decl =>
    have declared : ((do decl.declare (← get) : Analysis (Option Symbol)).run
        session.table).IsSteady :=
      IsSteady.run_bind rfl (declareTyped_isSteady _ decl.type decl.name _)
    refine IsSteady.isBalanced ?_ ?_
    · exact (session.onTable_isSteady declared).bind rfl
    · exact (congrArg SymbolTable.depth
        (declareTyped_after session.table decl.type decl.name session.table)).trans
          (session.table.acceptAll_depth _)
  | field decl =>
    refine IsSteady.isBalanced ?_ rfl
    exact (session.onFields_isSteady (declareTyped_isSteady _ decl.type decl.name _)).bind rfl
  | fields decls =>
    refine IsSteady.isBalanced ?_ rfl
    exact (session.onFields_isSteady (declareFields_isSteady _ decls _)).bind rfl
  | members decls =>
    refine IsSteady.isBalanced ?_ rfl
    exact (session.onFields_isSteady (declareMembers_isSteady _ decls _)).bind rfl
  | define name =>
    rw [perform]
    split
    · rename_i declared
      exact IsSteady.isBalanced rfl (SymbolTable.depth_declare declared)
    · rfl
  | declare name symbol =>
    rw [perform]
    split
    · rename_i declared
      exact IsSteady.isBalanced rfl (SymbolTable.depth_declare declared)
    · rfl
  | lookup name =>
    rw [perform]
    split <;> rfl

theorem countP_cons_toNat (chosen : Command → Bool) (command : Command) (rest : List Command) :
    (command :: rest).countP chosen = rest.countP chosen + (chosen command).toNat := by
  rw [List.countP_cons]
  cases chosen command <;> rfl

/-- In a run the number of scopes is the balance of those that were opened and those that were
closed. -/
theorem run_isBalanced (session : Session) (commands : List Command) :
    (session.run commands).IsBalanced session (commands.countP Command.isEnter)
      (commands.countP Command.isLeave) := by
  induction commands generalizing session with
  | nil => rfl
  | cons command rest inductionHypothesis =>
    have first := session.perform_isBalanced command
    have later := inductionHypothesis (session.perform command).value.2
    have after : (session.run (command :: rest)).value.2 =
        ((session.perform command).value.2.run rest).value.2 := rfl
    have trace : (session.run (command :: rest)).trace = (session.perform command).trace ++
        ((session.perform command).value.2.run rest).trace :=
      congrArg (_ ++ ·) (List.append_nil _)
    rw [Traced.IsBalanced] at first later ⊢
    rw [after, trace, Trace.underflows_append, countP_cons_toNat, countP_cons_toNat]
    omega

end Session

/-! ### The balance of an analysis -/

theorem Decl.name_introduction (decl : Decl) : decl.introduction.name = decl.name := by
  cases decl <;> rfl

/-- What declarations introduce is found under their names. -/
theorem bindingsOf_sublist (decls : List Decl) :
    (bindingsOf (decls.map Decl.introduction)).Sublist
      (decls.map fun decl => (decl.name.name, decl.introduction.symbol)) := by
  have named : (decls.map Decl.introduction).map (fun introduction =>
      (introduction.name.name, introduction.symbol)) =
        decls.map fun decl => (decl.name.name, decl.introduction.symbol) := by
    rw [List.map_map]
    exact List.map_congr_left fun decl _ => by rw [Function.comp, decl.name_introduction]
  rw [← named]
  exact List.filter_sublist.map _

/-- No part of an analysis changes a scope but the innermost one, which only gains names by the
declarations that stand in it directly; no closing is refused; and in a sequence of steps the scopes
that were opened, less those that were closed, are those that are open in addition. -/
theorem analysis_keeps_balance :
    (∀ (expr : Expr) (table : SymbolTable),
      (expr.analyze.run table).value.2 = table ∧
        (expr.analyze.run table).trace.underflows = 0) ∧
    (∀ (stmt : Stmt) (table : SymbolTable),
      (stmt.analyze.run table).value.2 = table ∧
        (stmt.analyze.run table).trace.underflows = 0) ∧
    (∀ (decl : Function) (table : SymbolTable),
      (∃ added, table.Gains added (decl.analyze.run table).value.2 ∧
        added.Sublist [(decl.name.name, .function (signatureOf decl.ret decl.formals))]) ∧
      (decl.analyze.run table).trace.underflows = 0) ∧
    (∀ (decl : StructDecl) (table : SymbolTable),
      (∃ added, table.Gains added (decl.analyze.run table).value.2 ∧
        added.Sublist [(decl.name.name, .structDefinition (fieldTable decl.fields))]) ∧
      (decl.analyze.run table).trace.underflows = 0) ∧
    (∀ (decls : List Decl) (table : SymbolTable),
      (∃ added, table.Gains added ((Decl.analyzeList decls).run table).value.2 ∧
        added.Sublist (decls.map fun decl => (decl.name.name, decl.introduction.symbol))) ∧
      ((Decl.analyzeList decls).run table).trace.underflows = 0) ∧
    (∀ (session : Session) (commands : List Command),
      (session.run commands).value.2.table.depth + commands.countP Command.isLeave =
        session.table.depth + commands.countP Command.isEnter +
          (session.run commands).trace.underflows) ∧
    ∀ program : Program, program.analyze.trace.underflows = 0 := by
  refine ⟨?_, ?_, ?_, ?_, ?_, Session.run_isBalanced, Program.analyze_isSteady⟩
  · exact fun expr table => ⟨expr.analyze_after table, expr.analyze_isSteady table⟩
  · exact fun stmt table => ⟨Stmt.analyze_after table stmt, Stmt.analyze_isSteady table stmt⟩
  · intro decl table
    rw [Function.analyze_after]
    exact ⟨table.accept_gains _, Function.analyze_isSteady table decl⟩
  · intro decl table
    rw [StructDecl.analyze_after]
    exact ⟨table.accept_gains _, decl.analyze_isSteady table⟩
  · intro decls table
    rw [Decl.analyzeList_after]
    obtain ⟨added, gained, listed⟩ :=
      table.acceptAll_gains (bindingsOf (decls.map Decl.introduction))
    exact ⟨⟨added, gained, listed.trans (bindingsOf_sublist decls)⟩,
      Decl.analyzeList_isSteady table decls⟩

end NameBinding
