/-
This file says which table an analysis leaves behind. Expressions and statements leave the table as
it is, whatever scopes they open on the way. Declarations add to the innermost scope what they
introduce, in the order of the text, and a void variable or a name that is taken adds nothing. What
is declared in the body of a function, in a branch or among the fields of a struct never reaches
the scopes around. All of this holds of every table, with scopes or without, and of every tree.
-/

import NameBinding.Proofs.Attachment
import NameBinding.Proofs.Surroundings

namespace NameBinding

open Declarable (accept acceptAll)

/-! ### Declaring one name -/

/-- Something to declare in that never takes a name twice. -/
class LawfulDeclarable (σ : Type) [Declarable σ] : Prop where
  declare_taken : ∀ (current : σ) (name : String) (found symbol : Symbol),
    Declarable.findLocal current name = .ok (some found) →
      Declarable.declare current name symbol = .error (.duplicateName name)
  declare_free : ∀ (current : σ) (name : String) (symbol : Symbol) (taken : String),
    (∀ found, Declarable.findLocal current name ≠ .ok (some found)) →
      Declarable.declare current name symbol ≠ .error (.duplicateName taken)

instance : LawfulDeclarable FieldTable where
  declare_taken fields name found symbol taken := by
    have located : fields.find? name = some found := by
      injection taken
    show fields.declare name symbol = _
    rw [Scope.declare, located]
  declare_free fields name symbol other free refused := by
    have located : fields.find? name = none := by
      refine Option.eq_none_iff_forall_ne_some.mpr fun found taken => free found ?_
      exact congrArg Except.ok taken
    have declared : fields.declare name symbol = .error (.duplicateName other) := refused
    rw [Scope.declare, located] at declared
    cases declared

instance : LawfulDeclarable SymbolTable where
  declare_taken table name found symbol taken := by
    obtain ⟨scopes⟩ := table
    cases scopes with
    | nil => cases taken
    | cons innermost outer =>
      have refused :=
        LawfulDeclarable.declare_taken (σ := FieldTable) innermost name found symbol taken
      show (innermost.declare name symbol).map _ = _
      rw [show innermost.declare name symbol = _ from refused]
      rfl
  declare_free table name symbol other free refused := by
    obtain ⟨scopes⟩ := table
    cases scopes with
    | nil => cases refused
    | cons innermost outer =>
      refine LawfulDeclarable.declare_free (σ := FieldTable) innermost name symbol other free ?_
      have declared :
          (innermost.declare name symbol).map (fun scope => SymbolTable.mk (scope :: outer)) =
            .error (.duplicateName other) := refused
      show innermost.declare name symbol = _
      cases outcome : innermost.declare name symbol with
      | ok next => rw [outcome] at declared; cases declared
      | error reason => rw [outcome] at declared; exact congrArg _ (by injection declared)

section

variable {σ : Type} [Declarable σ]

/-- Whether a name is taken. -/
def Declarable.isTaken (current : σ) (name : String) : Bool :=
  match Declarable.findLocal current name with
  | .ok (some _) => true
  | _ => false

theorem Declarable.isTaken_iff (current : σ) (name : String) :
    isTaken current name = true ↔ ∃ found, findLocal current name = .ok (some found) := by
  unfold isTaken
  split
  · rename_i found located
    exact iff_of_true rfl ⟨found, located⟩
  · rename_i untaken
    exact iff_of_false Bool.false_ne_true fun ⟨found, located⟩ => untaken found located

variable [LawfulDeclarable σ]

/-- A symbol is declared if its name is not taken. -/
theorem declareSymbol_after (name : Ident) (symbol : Symbol) (current : σ) :
    ((declareSymbol name symbol).run current).value.2 = accept current (name.name, symbol) := by
  have refused := LawfulDeclarable.declare_taken current name.name
  unfold declareSymbol accept
  simp only [StateT.run_bind, StateT.run_get, Traced.value_bind, Traced.value_pure]
  split
  · rename_i found located
    rw [refused found symbol located]
    rfl
  · simp only [StateT.run_bind, StateT.run_get, Traced.value_bind, Traced.value_pure]
    cases outcome : Declarable.declare current name.name symbol with
    | ok next => rfl
    | error reason => cases reason <;> rfl

/-- A name is reported if it is taken, and then once. -/
theorem declareSymbol_reports (name : Ident) (symbol : Symbol) (current : σ) :
    ((declareSymbol name symbol).run current).trace.diagnostics =
      if Declarable.isTaken current name.name then [⟨.multiplyDeclared, name.pos⟩] else [] := by
  unfold declareSymbol
  simp only [StateT.run_bind, StateT.run_get, Traced.trace_bind, Traced.trace_pure,
    Traced.value_pure, List.nil_append]
  split
  · rename_i found located
    rw [if_pos ((Declarable.isTaken_iff current name.name).mpr ⟨found, located⟩)]
    rfl
  · rename_i untaken
    have free : ¬ Declarable.isTaken current name.name = true := fun taken =>
      have ⟨found, located⟩ := (Declarable.isTaken_iff current name.name).mp taken
      untaken found located
    rw [if_neg free]
    simp only [StateT.run_bind, StateT.run_get, Traced.trace_bind, Traced.trace_pure,
      Traced.value_pure, List.nil_append]
    cases outcome : Declarable.declare current name.name symbol with
    | ok next => rfl
    | error reason =>
      cases reason with
      | duplicateName taken =>
        exact absurd outcome (LawfulDeclarable.declare_free current name.name symbol taken untaken)
      | scopeUnderflow => rfl
      | noActiveScope => rfl

/-- A variable, a formal or a field adds what it introduces. -/
theorem declareTyped_after (outer : SymbolTable) (type : TypeName) (name : Ident) (current : σ) :
    ((declareTyped outer type name).run current).value.2 =
      acceptAll current (bindingsOf [.typed type name]) := by
  unfold declareTyped
  by_cases void : type.isVoid = true
  · rw [if_pos void, bindingsOf_cons_void (.typed type name) [] void]
    rfl
  · rw [if_neg void, bindingsOf_cons (.typed type name) [] (Bool.not_eq_true _ ▸ void)]
    exact declareSymbol_after name type.symbol current

/-- A variable, a formal or a field is reported for its type, and for its name if it is no void
one. -/
theorem declareTyped_taken (outer : SymbolTable) (type : TypeName) (name : Ident) (current : σ) :
    ((declareTyped outer type name).run current).trace.diagnostics =
      if type.isVoid then [⟨.nonFunctionVoid, name.pos⟩]
      else (type.check outer).trace.diagnostics ++
        if Declarable.isTaken current name.name then [⟨.multiplyDeclared, name.pos⟩] else [] := by
  unfold declareTyped
  by_cases void : type.isVoid = true
  · rw [if_pos void, if_pos void]
    rfl
  · rw [if_neg void, if_neg void, run_bind_trace, run_lift_trace, run_lift_value,
      Trace.diagnostics_append, declareSymbol_reports]

theorem declareFields_after (outer : SymbolTable) (fields : List VarDecl) (current : σ) :
    ((declareFields outer fields).run current).value.2 =
      acceptAll current (bindingsOf (fields.map VarDecl.introduction)) := by
  induction fields generalizing current with
  | nil => rfl
  | cons field rest inductionHypothesis =>
    rw [List.map_cons, bindingsOf_cons_eq, Declarable.acceptAll_append]
    have first : ((field.declare outer).run current).value.2 =
        acceptAll current (bindingsOf [field.introduction]) :=
      declareTyped_after outer field.type field.name current
    rw [← first]
    exact inductionHypothesis _

end

theorem Formal.declareList_after (formals : List Formal) (table : SymbolTable) :
    ((Formal.declareList formals).run table).value.2 =
      acceptAll table (bindingsOf (formals.map Formal.introduction)) := by
  induction formals generalizing table with
  | nil => rfl
  | cons formal rest inductionHypothesis =>
    rw [List.map_cons, bindingsOf_cons_eq, Declarable.acceptAll_append]
    have first : ((declareTyped table formal.type formal.name).run table).value.2 =
        acceptAll table (bindingsOf [formal.introduction]) :=
      declareTyped_after table formal.type formal.name table
    rw [← first]
    exact inductionHypothesis _

/-- A function or a struct is declared if its name is not taken. -/
theorem declareDefinition_after (name : Ident) (symbol : Symbol) (event : Option Event)
    (table : SymbolTable) :
    ((declareDefinition name symbol event).run table).value.2 =
      accept table (name.name, symbol) := by
  have declared : Declarable.declare table name.name symbol = table.declare name.name symbol := rfl
  unfold declareDefinition accept
  simp only [StateT.run_bind, StateT.run_get, Traced.value_bind, Traced.value_pure]
  rw [declared]
  cases outcome : table.declare name.name symbol with
  | ok next => cases event <;> rfl
  | error reason => cases reason <;> rfl

/-- A function or a struct is reported if its name is taken. -/
theorem declareDefinition_taken (name : Ident) (symbol : Symbol) (event : Option Event)
    (silent : ∀ noted, event = some noted → noted.isSilent = true) (table : SymbolTable) :
    ((declareDefinition name symbol event).run table).trace.diagnostics =
      if Declarable.isTaken table name.name then [⟨.multiplyDeclared, name.pos⟩] else [] := by
  have free := LawfulDeclarable.declare_free table name.name symbol
  have declared : Declarable.declare table name.name symbol = table.declare name.name symbol := rfl
  unfold declareDefinition
  simp only [StateT.run_bind, StateT.run_get, Traced.trace_bind, Traced.trace_pure,
    Traced.value_pure, List.nil_append]
  by_cases duplicate : Declarable.isTaken table name.name = true
  · obtain ⟨found, located⟩ := (Declarable.isTaken_iff _ name.name).mp duplicate
    rw [if_pos duplicate, ← declared, LawfulDeclarable.declare_taken _ _ found symbol located]
    rfl
  · rw [if_neg duplicate]
    cases outcome : table.declare name.name symbol with
    | ok next =>
      cases event with
      | none => rfl
      | some noted => exact Trace.diagnostics_cons_silent noted [] (silent noted rfl)
    | error reason =>
      cases reason with
      | duplicateName other =>
        refine absurd outcome (free other fun found located => duplicate ?_)
        exact (Declarable.isTaken_iff _ name.name).mpr ⟨found, located⟩
      | scopeUnderflow => rfl
      | noActiveScope => rfl

/-- The fields of a struct, read one after the other. -/
theorem declareFields_empty (outer : SymbolTable) (fields : List VarDecl) :
    ((declareFields (σ := FieldTable) outer fields).run Scope.empty).value.2 =
      fieldTable fields := by
  rw [declareFields_after, fieldTable_eq]
  exact Scope.acceptAll_ofBindings [] _

/-- A struct is declared if its name is not taken, with the fields that it keeps. -/
theorem StructDecl.analyze_after (decl : StructDecl) (table : SymbolTable) :
    (decl.analyze.run table).value.2 =
      accept table (decl.name.name, .structDefinition (fieldTable decl.fields)) := by
  have refused := LawfulDeclarable.declare_taken table decl.name.name
  unfold StructDecl.analyze
  simp only [StateT.run_bind, StateT.run_get, Traced.value_bind, Traced.value_pure]
  split
  · rename_i duplicate
    have ⟨found, located⟩ := (Declarable.isTaken_iff table decl.name.name).mp duplicate
    rw [accept, refused found _ located]
    rfl
  · have declared := declareDefinition_after decl.name
      (.structDefinition (fieldTable decl.fields)) none table
    rw [← declareFields_empty table] at declared ⊢
    exact declared

/-- A struct is reported if its name is taken, and its fields are in either case. -/
theorem StructDecl.analyze_taken (decl : StructDecl) (table : SymbolTable) :
    (decl.analyze.run table).trace.diagnostics =
      (if Declarable.isTaken table decl.name.name then [⟨.multiplyDeclared, decl.name.pos⟩]
        else []) ++
        ((declareFields (σ := FieldTable) table decl.fields).run
          Scope.empty).trace.diagnostics := by
  unfold StructDecl.analyze
  simp only [StateT.run_bind, StateT.run_get, Traced.trace_bind, Traced.trace_pure,
    Traced.value_pure, List.nil_append]
  split
  · rename_i duplicate
    have taken : Declarable.isTaken table decl.name.name = true := duplicate
    simp only [run_bind_trace, run_lift_trace, run_lift_value, if_pos taken,
      Trace.diagnostics_append]
    exact congrArg _ (List.append_nil _)
  · rename_i untaken
    have free : ¬ Declarable.isTaken table decl.name.name = true := untaken
    have declared := fun symbol => declareDefinition_taken decl.name symbol none
      (fun _ absent => nomatch absent) table
    simp only [run_bind_trace, run_lift_trace, run_lift_value, if_neg free,
      Trace.diagnostics_append, declared]
    exact List.append_nil _

/-! ### Scopes that are opened and closed -/

theorem enterScope_run (table : SymbolTable) :
    enterScope.run table = ⟨((), table.push), [.scopeEntered table.push.depth]⟩ := rfl

theorem leaveScope_run (scope : Scope Symbol) (outer : List (Scope Symbol)) :
    leaveScope.run ⟨scope :: outer⟩ = ⟨((), ⟨outer⟩), [.scopeLeft outer.length]⟩ := rfl

/-- Closing a scope gives up all that was declared since it was opened, and nothing else. -/
theorem leaveScope_after (table : SymbolTable) (bindings : List (String × Symbol)) :
    (leaveScope.run (acceptAll table.push bindings)).value.2 = table := by
  rw [SymbolTable.push, SymbolTable.acceptAll_cons, leaveScope_run]

/-! ### Blocks, statements and declarations -/

theorem Expr.analyze_after (expr : Expr) (table : SymbolTable) :
    (expr.analyze.run table).value.2 = table := rfl

/-- A body with a scope of its own leaves the table as it was before the scope. -/
theorem leaveScope_body (body : Block) (table : SymbolTable)
    (after : (body.analyze.run table.push).value.2 =
      acceptAll table.push (bindingsOf (body.decls.map Decl.introduction))) :
    (leaveScope.run (body.analyze.run table.push).value.2).value.2 = table := by
  rw [after, leaveScope_after]

mutual

theorem Block.analyze_after (table : SymbolTable) : ∀ block : Block,
    (block.analyze.run table).value.2 =
      acceptAll table (bindingsOf (block.decls.map Decl.introduction))
  | ⟨decls, stmts⟩ => by
    rw [Block.analyze]
    exact (Stmt.analyzeList_after _ stmts).trans (Decl.analyzeList_after table decls)

/-- A statement leaves the table as it was. -/
theorem Stmt.analyze_after (table : SymbolTable) : ∀ stmt : Stmt,
    (stmt.analyze.run table).value.2 = table
  | .assign lhs rhs => by rw [Stmt.analyze]; rfl
  | .postInc target => by rw [Stmt.analyze]; rfl
  | .postDec target => by rw [Stmt.analyze]; rfl
  | .ifThen cond body => by
    rw [Stmt.analyze]
    exact leaveScope_body body table (Block.analyze_after table.push body)
  | .ifElse cond thenBranch elseBranch => by
    have first := leaveScope_body thenBranch table (Block.analyze_after table.push thenBranch)
    have second := leaveScope_body elseBranch table (Block.analyze_after table.push elseBranch)
    rw [Stmt.analyze]
    simp only [run_bind_value, StateT.run_pure, Traced.value_pure, enterScope_run,
      Expr.analyze_after]
    rw [first, second]
  | .whileDo cond body => by
    rw [Stmt.analyze]
    exact leaveScope_body body table (Block.analyze_after table.push body)
  | .read target => by rw [Stmt.analyze]; rfl
  | .write value => by rw [Stmt.analyze]; rfl
  | .call callee args => by rw [Stmt.analyze]; rfl
  | .ret none => by rw [Stmt.analyze]; rfl
  | .ret (some value) => by rw [Stmt.analyze]; rfl

theorem Stmt.analyzeList_after (table : SymbolTable) : ∀ stmts : List Stmt,
    ((Stmt.analyzeList stmts).run table).value.2 = table
  | [] => by rw [Stmt.analyzeList]; rfl
  | stmt :: rest => by
    rw [Stmt.analyzeList]
    exact (Stmt.analyzeList_after _ rest).trans (Stmt.analyze_after table stmt)

theorem Function.analyze_after (table : SymbolTable) : ∀ decl : Function,
    (decl.analyze.run table).value.2 =
      accept table (decl.name.name, .function (signatureOf decl.ret decl.formals))
  | ⟨ret, name, formals, body⟩ => by
    rw [Function.analyze_eq]
    simp only [run_bind_value, StateT.run_pure, Traced.value_pure]
    rw [Block.analyze_after, Formal.declareList_after, enterScope_run,
      ← Declarable.acceptAll_append, leaveScope_after, declareDefinition_after]

theorem Decl.analyze_after (table : SymbolTable) : ∀ decl : Decl,
    (decl.analyze.run table).value.2 = acceptAll table (bindingsOf [decl.introduction])
  | .var decl => by
    rw [Decl.analyze]
    exact declareTyped_after table decl.type decl.name table
  | .func decl => by
    rw [Decl.analyze]
    exact Function.analyze_after table decl
  | .struct decl => by
    rw [Decl.analyze]
    exact decl.analyze_after table

/-- Declarations add what they introduce to the innermost scope. -/
theorem Decl.analyzeList_after (table : SymbolTable) : ∀ decls : List Decl,
    ((Decl.analyzeList decls).run table).value.2 =
      acceptAll table (bindingsOf (decls.map Decl.introduction))
  | [] => by rw [Decl.analyzeList]; rfl
  | decl :: rest => by
    rw [Decl.analyzeList, List.map_cons, bindingsOf_cons_eq, Declarable.acceptAll_append,
      ← Decl.analyze_after table decl]
    exact Decl.analyzeList_after _ rest

end

end NameBinding
