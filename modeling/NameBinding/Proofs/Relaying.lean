/-
This file proves that the analysis with a receiver does what the analysis that keeps an account of
itself does. Both take the same steps, so it is enough that every way of putting steps together
respects what two steps have in common: the same value, and a receiver that was told the errors of
the account when they were found. The account knows more than any receiver is told, and what nobody
is told of stands on one side only. Everything else goes along the tree, with one case for each
constructor, and then along the commands of a session.
-/

import NameBinding.Session
import NameBinding.Proofs.Traced

namespace NameBinding

section

variable {σ τ α β : Type} [Sink σ]

/-- What an event does to an analyzer. -/
def Analyzer.take (analyzer : Analyzer σ) : Event → Analyzer σ
  | .reported diagnostic => { analyzer with sink := Sink.report analyzer.sink diagnostic }
  | .leaveRefused => { analyzer with underflows := analyzer.underflows + 1 }
  | _ => analyzer

/-- Whether an event neither reaches a receiver nor counts. -/
def Event.isUnseen : Event → Bool
  | .reported _ => false
  | .leaveRefused => false
  | _ => true

/-- Whether a step with a receiver does what a step with a trace does: it gives the same value, and
it changes the analyzer as the events of the trace do, one after the other. -/
def Relays (told : Reporting σ α) (traced : Traced α) : Prop :=
  ∀ analyzer : Analyzer σ,
    told.run analyzer = (traced.value, traced.trace.foldl Analyzer.take analyzer)

/-- The same for steps that have a table or fields to declare in, whatever is declared there. -/
def RelaysOn (told : DeclaringTo σ τ α) (traced : Declaring τ α) : Prop :=
  ∀ current : τ, Relays (told.run current) (traced.run current)

/-! ### Steps put together -/

namespace Relays

theorem pure (value : α) : Relays (pure value : Reporting σ α) (pure value) :=
  fun _ => rfl

/-- The second step starts with the receiver that the first one leaves. -/
theorem bind {first : Reporting σ α} {next : α → Reporting σ β} {traced : Traced α}
    {nextTraced : α → Traced β} (relays : Relays first traced)
    (relaysNext : ∀ value, Relays (next value) (nextTraced value)) :
    Relays (first >>= next) (traced >>= nextTraced) := by
  intro analyzer
  rw [StateT.run_bind, relays analyzer, Traced.trace_bind, List.foldl_append]
  exact relaysNext traced.value _

/-- An error is told by its kind when it is found. -/
theorem report (kind : DiagnosticKind) (pos : Position) :
    Relays (Analyzer.report kind pos : Reporting σ Unit) (NameBinding.report kind pos) :=
  fun _ => rfl

theorem note {event : Event} (unseen : event.isUnseen = true) :
    Relays (Pure.pure () : Reporting σ Unit) (note event) := by
  intro analyzer
  cases event with
  | reported _ => exact absurd unseen Bool.false_ne_true
  | leaveRefused => exact absurd unseen Bool.false_ne_true
  | _ => rfl

/-- An event that the analyzer does not notice stands in the account alone. -/
theorem after {event : Event} {told : Reporting σ α} {traced : Traced α}
    (unseen : event.isUnseen = true) (relays : Relays told traced) :
    Relays told (NameBinding.note event >>= fun _ => traced) :=
  (note unseen).bind fun _ => relays

end Relays

namespace RelaysOn

theorem pure (value : α) : RelaysOn (pure value : DeclaringTo σ τ α) (pure value) :=
  fun current => Relays.pure (value, current)

theorem bind {first : DeclaringTo σ τ α} {next : α → DeclaringTo σ τ β} {traced : Declaring τ α}
    {nextTraced : α → Declaring τ β} (relays : RelaysOn first traced)
    (relaysNext : ∀ value, RelaysOn (next value) (nextTraced value)) :
    RelaysOn (first >>= next) (traced >>= nextTraced) :=
  fun current => (relays current).bind fun outcome => relaysNext outcome.1 outcome.2

theorem lift {told : Reporting σ α} {traced : Traced α} (relays : Relays told traced) :
    RelaysOn (liftM told : DeclaringTo σ τ α) (liftM traced) :=
  fun current => relays.bind fun value => Relays.pure (value, current)

theorem get : RelaysOn (get : DeclaringTo σ τ τ) get :=
  fun current => Relays.pure (current, current)

theorem set (current : τ) : RelaysOn (set current : DeclaringTo σ τ PUnit) (set current) :=
  fun _ _ => rfl

theorem note {event : Event} (unseen : event.isUnseen = true) :
    RelaysOn (Pure.pure () : DeclaringTo σ τ Unit) (liftM (NameBinding.note event)) :=
  lift (.note unseen)

theorem after {event : Event} {told : DeclaringTo σ τ α} {traced : Declaring τ α}
    (unseen : event.isUnseen = true) (relays : RelaysOn told traced) :
    RelaysOn told ((liftM (NameBinding.note event) : Declaring τ Unit) >>= fun _ => traced) :=
  (note unseen).bind fun _ => relays

/-- The same with the event at the end. -/
theorem before {event : Event} {told : DeclaringTo σ τ Unit} {traced : Declaring τ Unit}
    (relays : RelaysOn told traced) (unseen : event.isUnseen = true) :
    RelaysOn told (traced >>= fun _ => liftM (NameBinding.note event)) :=
  relays.bind fun _ => note unseen

end RelaysOn

/-! ### Expressions -/

namespace Analyzer

theorem resolveIdent_relays (table : SymbolTable) (ident : Ident) :
    Relays (resolveIdent table ident : Reporting σ Ident) (ident.resolve table) := by
  rw [resolveIdent, Ident.resolve]
  cases table.find ident.name with
  | error reason => exact .after rfl (.pure ident)
  | ok found =>
    cases found with
    | none => exact (Relays.report .undeclared ident.pos).bind fun _ => .pure ident
    | some symbol => exact .after rfl (.pure { ident with symbol := some symbol })

/-- An error that ends the search for the fields of a base. -/
theorem relays_noFields (kind : DiagnosticKind) (pos : Position) :
    Relays (do report kind pos; return none : Reporting σ (Option FieldTable))
      (do NameBinding.report kind pos; return none) :=
  (Relays.report kind pos).bind fun _ => .pure none

theorem selectable_relays (table : SymbolTable) (fieldPos : Position) (base : Expr) :
    Relays (selectable table fieldPos base : Reporting σ (Option FieldTable))
      (base.selectable table fieldPos) := by
  cases base with
  | id ident =>
    rw [selectable, Expr.selectable]
    cases ident.symbol with
    | none => exact .pure none
    | some symbol =>
      dsimp only
      cases table.fieldsOf? symbol with
      | none => exact relays_noFields .colonAccessOfNonStruct ident.pos
      | some fields => exact .pure (some fields)
  | access inner field exposed =>
    cases exposed with
    | none =>
      rw [selectable, Expr.selectable]
      cases field.isBound with
      | false => exact .pure none
      | true => exact relays_noFields .invalidStructFieldName field.pos
    | some symbol =>
      rw [selectable, Expr.selectable]
      cases symbol.fields? with
      | none => exact relays_noFields .colonAccessOfNonStruct fieldPos
      | some fields => exact .pure (some fields)
  | _ => exact relays_noFields .colonAccessOfNonStruct fieldPos

theorem select_relays (table : SymbolTable) (base : Expr) (field : Ident)
    (exposed : Option Symbol) (fields : FieldTable) :
    Relays (select table base field exposed fields : Reporting σ Expr)
      (base.select table field exposed fields) := by
  rw [select, Expr.select]
  cases fields.find? field.name with
  | none =>
    exact (Relays.report .undeclared field.pos).bind fun _ => .pure _
  | some symbol => exact .after rfl (.pure _)

mutual

theorem resolve_relays (table : SymbolTable) (expr : Expr) :
    Relays (resolve table expr : Reporting σ Expr) (expr.resolve table) := by
  cases expr with
  | truth value pos => rw [resolve, Expr.resolve]; exact .pure _
  | id ident =>
    rw [resolve, Expr.resolve]
    exact (resolveIdent_relays table ident).bind fun ident => .pure _
  | intLit value pos => rw [resolve, Expr.resolve]; exact .pure _
  | strLit value pos => rw [resolve, Expr.resolve]; exact .pure _
  | access base field exposed =>
    rw [resolve, Expr.resolve]
    refine (resolve_relays table base).bind fun base => ?_
    refine (selectable_relays table field.pos base).bind fun fields => ?_
    cases fields with
    | none => exact .pure _
    | some fields => exact select_relays table base field exposed fields
  | assign lhs rhs =>
    rw [resolve, Expr.resolve]
    exact (resolve_relays table lhs).bind fun lhs => (resolve_relays table rhs).bind fun rhs =>
      .pure _
  | call callee args =>
    rw [resolve, Expr.resolve]
    exact (resolveIdent_relays table callee).bind fun callee =>
      (resolveList_relays table args).bind fun args => .pure _
  | unary op operand =>
    rw [resolve, Expr.resolve]
    exact (resolve_relays table operand).bind fun operand => .pure _
  | binary op lhs rhs =>
    rw [resolve, Expr.resolve]
    exact (resolve_relays table lhs).bind fun lhs => (resolve_relays table rhs).bind fun rhs =>
      .pure _

theorem resolveList_relays (table : SymbolTable) (exprs : List Expr) :
    Relays (resolveList table exprs : Reporting σ (List Expr))
      (Expr.resolveList table exprs) := by
  cases exprs with
  | nil => rw [resolveList, Expr.resolveList]; exact .pure []
  | cons expr rest =>
    rw [resolveList, Expr.resolveList]
    exact (resolve_relays table expr).bind fun expr =>
      (resolveList_relays table rest).bind fun rest => .pure (expr :: rest)

end

/-! ### Declarations -/

theorem checkType_relays (outer : SymbolTable) (type : TypeName) :
    Relays (checkType outer type : Reporting σ Unit) (type.check outer) := by
  cases type with
  | struct name =>
    rw [checkType, TypeName.check]
    cases outer.definesStruct name.name with
    | true => exact .pure ()
    | false => exact .report .invalidStructType name.pos
  | _ => exact .pure ()

/-- An error that ends a declaration. -/
theorem relaysOn_notDeclared (kind : DiagnosticKind) (pos : Position) :
    RelaysOn (do report (σ := σ) kind pos; return none : DeclaringTo σ τ (Option Symbol))
      (do NameBinding.report kind pos; return none) :=
  (RelaysOn.lift (.report kind pos)).bind fun _ => .pure none

section

variable [Declarable τ]

theorem declareSymbol_relays (name : Ident) (symbol : Symbol) :
    RelaysOn (declareSymbol name symbol : DeclaringTo σ τ (Option Symbol))
      (NameBinding.declareSymbol name symbol) := by
  refine RelaysOn.get.bind fun current => ?_
  rcases Declarable.findLocal current name.name with reason | found | taken
  case ok.some => exact relaysOn_notDeclared .multiplyDeclared name.pos
  -- Without a scope the look-up fails, and then the declaration is left to fail.
  all_goals
    refine RelaysOn.get.bind fun current => ?_
    cases Declarable.declare current name.name symbol with
    | ok current => exact (RelaysOn.set current).bind fun _ => .after rfl (.pure _)
    | error reason =>
      cases reason with
      | duplicateName _ => exact relaysOn_notDeclared .multiplyDeclared name.pos
      | _ => exact .after rfl (.pure none)

theorem declareTyped_relays (outer : SymbolTable) (type : TypeName) (name : Ident) :
    RelaysOn (declareTyped outer type name : DeclaringTo σ τ (Option Symbol))
      (NameBinding.declareTyped outer type name) := by
  rw [declareTyped, NameBinding.declareTyped]
  cases type.isVoid with
  | true => exact relaysOn_notDeclared .nonFunctionVoid name.pos
  | false =>
    exact (RelaysOn.lift (checkType_relays outer type)).bind fun _ =>
      declareSymbol_relays name type.symbol

theorem declareVar_relays (outer : SymbolTable) (decl : VarDecl) :
    RelaysOn (declareVar outer decl : DeclaringTo σ τ (Option Symbol)) (decl.declare outer) :=
  declareTyped_relays outer decl.type decl.name

theorem declareFields_relays (outer : SymbolTable) (fields : List VarDecl) :
    RelaysOn (declareFields outer fields : DeclaringTo σ τ Unit)
      (NameBinding.declareFields outer fields) := by
  induction fields with
  | nil => exact .pure ()
  | cons field rest inductionHypothesis =>
    exact (declareVar_relays outer field).bind fun _ => inductionHypothesis

end

theorem declareMembers_relays (outer : SymbolTable) (members : List Decl) :
    RelaysOn (declareMembers outer members : DeclaringTo σ FieldTable Unit)
      (NameBinding.declareMembers outer members) := by
  induction members with
  | nil => exact .pure ()
  | cons member rest inductionHypothesis =>
    cases member with
    | var decl => exact (declareVar_relays outer decl).bind fun _ => inductionHypothesis
    | func _ => exact .after rfl inductionHypothesis
    | struct _ => exact .after rfl inductionHypothesis

theorem enterScope_relays :
    RelaysOn (enterScope : AnalysisTo σ Unit) NameBinding.enterScope :=
  fun _ _ => rfl

/-- A closing without a scope is counted when it is refused. -/
theorem leaveScope_relays :
    RelaysOn (leaveScope : AnalysisTo σ Unit) NameBinding.leaveScope := by
  intro table analyzer
  obtain ⟨scopes⟩ := table
  cases scopes <;> rfl

theorem declareDefinition_relays (name : Ident) (symbol : Symbol) (event : Option Event)
    (unseen : event.all Event.isUnseen = true) :
    RelaysOn (declareDefinition name symbol : AnalysisTo σ Unit)
      (NameBinding.declareDefinition name symbol event) := by
  refine RelaysOn.get.bind fun table => ?_
  cases table.declare name.name symbol with
  | ok table =>
    cases event with
    | none => exact .set table
    | some event => exact (RelaysOn.set table).before unseen
  | error reason =>
    cases reason with
    | duplicateName _ => exact .lift (.report .multiplyDeclared name.pos)
    | _ => exact .note rfl

theorem declareFormals_relays (formals : List Formal) :
    RelaysOn (declareFormals formals : AnalysisTo σ Unit) (Formal.declareList formals) := by
  induction formals with
  | nil => exact .pure ()
  | cons formal rest inductionHypothesis =>
    exact RelaysOn.get.bind fun table =>
      (declareTyped_relays table formal.type formal.name).bind fun _ => inductionHypothesis

/-- The fields are declared apart from the table, and nobody is told how many there are. -/
theorem declareStruct_relays (decl : StructDecl) :
    RelaysOn (declareStruct decl : AnalysisTo σ Unit) decl.analyze := by
  refine RelaysOn.get.bind fun table => ?_
  have fields := declareFields_relays (σ := σ) table decl.fields (Scope.empty : FieldTable)
  rcases table.findLocal decl.name.name with reason | found | taken
  case ok.some =>
    exact (RelaysOn.lift (.report .multiplyDeclared decl.name.pos)).bind fun _ =>
      (RelaysOn.lift fields).bind fun _ => .after rfl (.pure ())
  all_goals
    exact (RelaysOn.lift fields).bind fun outcome => .after rfl
      (declareDefinition_relays decl.name (.structDefinition outcome.2) none rfl)

theorem attachFormals_relays (name : Ident) (signature : Signature) (held : Bool)
    (formals : List Formal) :
    RelaysOn (attachFormals name held formals : AnalysisTo σ Unit)
      (NameBinding.attachFormals name signature held formals) := by
  cases held with
  | true =>
    refine RelaysOn.get.bind fun table => ?_
    rcases table.attachOutside name.name _ with ⟨_ | attached, table⟩
    · exact .set table
    · cases attached with
      | true => exact .set table
      | false => exact .note rfl
  | false =>
    rw [NameBinding.attachFormals]
    cases signature.attach? _ with
    | none => exact .note rfl
    | some _ => exact .pure ()

/-! ### Statements and programs -/

theorem analyzeExpr_relays (expr : Expr) :
    RelaysOn (analyzeExpr expr : AnalysisTo σ Expr) expr.analyze :=
  RelaysOn.get.bind fun table => .lift (resolve_relays table expr)

/-- A part of a statement with a scope of its own. -/
theorem scoped_relays {body : AnalysisTo σ Block} {traced : Analysis Block}
    {next : Block → AnalysisTo σ α} {nextTraced : Block → Analysis α}
    (relays : RelaysOn body traced)
    (relaysNext : ∀ block, RelaysOn (next block) (nextTraced block)) :
    RelaysOn (do enterScope; let block ← body; leaveScope; next block)
      (do NameBinding.enterScope; let block ← traced; NameBinding.leaveScope; nextTraced block) :=
  enterScope_relays.bind fun _ => relays.bind fun block =>
    leaveScope_relays.bind fun _ => relaysNext block

mutual

theorem analyzeBlock_relays (block : Block) :
    RelaysOn (analyzeBlock block : AnalysisTo σ Block) block.analyze := by
  obtain ⟨decls, stmts⟩ := block
  rw [analyzeBlock, Block.analyze]
  exact (analyzeDecls_relays decls).bind fun decls =>
    (analyzeStmts_relays stmts).bind fun stmts => .pure _

theorem analyzeStmt_relays (stmt : Stmt) :
    RelaysOn (analyzeStmt stmt : AnalysisTo σ Stmt) stmt.analyze := by
  cases stmt with
  | assign lhs rhs =>
    rw [analyzeStmt, Stmt.analyze]
    exact (analyzeExpr_relays lhs).bind fun lhs => (analyzeExpr_relays rhs).bind fun rhs => .pure _
  | postInc target =>
    rw [analyzeStmt, Stmt.analyze]
    exact (analyzeExpr_relays target).bind fun target => .pure _
  | postDec target =>
    rw [analyzeStmt, Stmt.analyze]
    exact (analyzeExpr_relays target).bind fun target => .pure _
  | ifThen cond body =>
    rw [analyzeStmt, Stmt.analyze]
    exact (analyzeExpr_relays cond).bind fun cond =>
      scoped_relays (analyzeBlock_relays body) fun body => .pure _
  | ifElse cond thenBranch elseBranch =>
    rw [analyzeStmt, Stmt.analyze]
    exact (analyzeExpr_relays cond).bind fun cond =>
      scoped_relays (analyzeBlock_relays thenBranch) fun thenBranch =>
        scoped_relays (analyzeBlock_relays elseBranch) fun elseBranch => .pure _
  | whileDo cond body =>
    rw [analyzeStmt, Stmt.analyze]
    exact (analyzeExpr_relays cond).bind fun cond =>
      scoped_relays (analyzeBlock_relays body) fun body => .pure _
  | read target =>
    rw [analyzeStmt, Stmt.analyze]
    exact (analyzeExpr_relays target).bind fun target => .pure _
  | write value =>
    rw [analyzeStmt, Stmt.analyze]
    exact (analyzeExpr_relays value).bind fun value => .pure _
  | call callee args =>
    rw [analyzeStmt, Stmt.analyze]
    refine RelaysOn.get.bind fun table => ?_
    refine (RelaysOn.lift (resolveIdent_relays table callee)).bind fun callee => ?_
    refine RelaysOn.get.bind fun table => ?_
    exact (RelaysOn.lift (resolveList_relays table args)).bind fun args => .pure _
  | ret value =>
    cases value with
    | none => rw [analyzeStmt, Stmt.analyze]; exact .pure _
    | some value =>
      rw [analyzeStmt, Stmt.analyze]
      exact (analyzeExpr_relays value).bind fun value => .pure _

theorem analyzeStmts_relays (stmts : List Stmt) :
    RelaysOn (analyzeStmts stmts : AnalysisTo σ (List Stmt)) (Stmt.analyzeList stmts) := by
  cases stmts with
  | nil => rw [analyzeStmts, Stmt.analyzeList]; exact .pure []
  | cons stmt rest =>
    rw [analyzeStmts, Stmt.analyzeList]
    exact (analyzeStmt_relays stmt).bind fun stmt =>
      (analyzeStmts_relays rest).bind fun rest => .pure (stmt :: rest)

theorem analyzeFunction_relays (function : Function) :
    RelaysOn (analyzeFunction function : AnalysisTo σ Function) function.analyze := by
  obtain ⟨ret, name, formals, body⟩ := function
  rw [analyzeFunction, Function.analyze]
  refine RelaysOn.get.bind fun table => ?_
  refine (declareDefinition_relays name _ (some (.declaredFunction name.name)) rfl).bind fun _ => ?_
  refine enterScope_relays.bind fun _ => ?_
  refine (declareFormals_relays formals).bind fun _ => ?_
  refine (attachFormals_relays name _ _ formals).bind fun _ => ?_
  refine (analyzeBlock_relays body).bind fun body => ?_
  exact leaveScope_relays.bind fun _ => .pure _

theorem analyzeDecl_relays (decl : Decl) :
    RelaysOn (analyzeDecl decl : AnalysisTo σ Decl) decl.analyze := by
  cases decl with
  | var decl =>
    rw [analyzeDecl, Decl.analyze]
    exact RelaysOn.get.bind fun table => (declareVar_relays table decl).bind fun _ => .pure _
  | func decl =>
    rw [analyzeDecl, Decl.analyze]
    exact (analyzeFunction_relays decl).bind fun decl => .pure _
  | struct decl =>
    rw [analyzeDecl, Decl.analyze]
    exact (declareStruct_relays decl).bind fun _ => .pure _

theorem analyzeDecls_relays (decls : List Decl) :
    RelaysOn (analyzeDecls decls : AnalysisTo σ (List Decl)) (Decl.analyzeList decls) := by
  cases decls with
  | nil => rw [analyzeDecls, Decl.analyzeList]; exact .pure []
  | cons decl rest =>
    rw [analyzeDecls, Decl.analyzeList]
    exact (analyzeDecl_relays decl).bind fun decl =>
      (analyzeDecls_relays rest).bind fun rest => .pure (decl :: rest)

end

theorem analyze_relays (program : Program) :
    Relays (analyze program : Reporting σ Program) program.analyze :=
  .after rfl ((analyzeDecls_relays program.decls SymbolTable.new).bind fun _ => .pure _)

/-! ### Sessions -/

theorem onTable_relays (session : Session) {step : AnalysisTo σ α} {traced : Analysis α}
    (relays : RelaysOn step traced) : Relays (onTable session step) (session.onTable traced) :=
  (relays session.table).bind fun _ => .pure _

theorem onFields_relays (session : Session) {step : DeclaringTo σ FieldTable α}
    {traced : Declaring FieldTable α} (relays : RelaysOn step traced) :
    Relays (onFields session step) (session.onFields traced) :=
  (relays session.fields).bind fun _ => .pure _

theorem analyzePart_relays (part : Part) :
    RelaysOn (analyzePart part : AnalysisTo σ Part) part.analyze := by
  cases part with
  | decls list => exact (analyzeDecls_relays list).bind fun _ => .pure _
  | stmt node => exact (analyzeStmt_relays node).bind fun _ => .pure _
  | expr node => exact (analyzeExpr_relays node).bind fun _ => .pure _
  | function node => exact (analyzeFunction_relays node).bind fun _ => .pure _

theorem perform_relays (session : Session) (command : Command) :
    Relays (perform session command : Reporting σ (Answer × Session))
      (session.perform command) := by
  have part (part : Part) := onTable_relays session (analyzePart_relays (σ := σ) part)
  cases command with
  | enter => exact (onTable_relays session enterScope_relays).bind fun _ => .pure _
  | leave => exact (onTable_relays session leaveScope_relays).bind fun _ => .pure _
  | keep node => exact (part node).bind fun _ => .pure _
  | again index =>
    rw [perform, Session.perform]
    cases session.kept[index]? with
    | none => exact .pure _
    | some node => exact (part node).bind fun _ => .pure _
  | once node => exact (part node).bind fun _ => .pure _
  | program program => exact (analyze_relays program).bind fun _ => .pure _
  | struct decl => exact (onTable_relays session (declareStruct_relays decl)).bind fun _ => .pure _
  | var decl =>
    have var := RelaysOn.get.bind fun table => declareVar_relays (σ := σ) table decl
    exact (onTable_relays session var).bind fun _ => .pure _
  | field decl =>
    have field := declareVar_relays (σ := σ) (τ := FieldTable) session.table decl
    exact (onFields_relays session field).bind fun _ => .pure _
  | fields decls =>
    have fields := declareFields_relays (σ := σ) (τ := FieldTable) session.table decls
    exact (onFields_relays session fields).bind fun _ => .pure _
  | members decls =>
    have members := declareMembers_relays (σ := σ) session.table decls
    exact (onFields_relays session members).bind fun _ => .pure _
  | define name =>
    rw [perform, Session.perform]
    cases session.table.declare name (.structDefinition session.fields) <;> exact .pure _
  | declare name symbol =>
    rw [perform, Session.perform]
    cases session.table.declare name symbol <;> exact .pure _
  | lookup name =>
    rw [perform, Session.perform]
    cases session.table.find name <;> exact .pure _

theorem run_relays (session : Session) (commands : List Command) :
    Relays (run session commands : Reporting σ (List Answer × Session)) (session.run commands) := by
  induction commands generalizing session with
  | nil => exact .pure ([], session)
  | cons command rest inductionHypothesis =>
    exact (perform_relays session command).bind fun outcome =>
      (inductionHypothesis outcome.2).bind fun _ => .pure _

end Analyzer

end

end NameBinding
