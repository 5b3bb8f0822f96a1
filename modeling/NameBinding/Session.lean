/-
This file lets scopes and analyses be mixed by hand. A session has one table, one scope of fields
that is no part of it, and the parts of trees that were analysed so far, which can be analysed again:
names that were bound stay bound until they are bound to something else. Whatever a command does, it
leaves the session in a state from which the next one goes on. A session can give an account of all
that happens in it, or it can be carried out with a receiver that is told of each error at once.
-/

import NameBinding.Analysis.Reporting
import NameBinding.Tree.Source

namespace NameBinding

/-- A part of a tree that can be analysed in a table. -/
inductive Part
  | decls (decls : List Decl)
  | stmt (stmt : Stmt)
  | expr (expr : Expr)
  | function (decl : Function)

namespace Part

/-- Analyses a part in a table. -/
def analyze : Part → Analysis Part
  | .decls list => do return .decls (← Decl.analyzeList list)
  | .stmt node => do return .stmt (← node.analyze)
  | .expr node => do return .expr (← node.analyze)
  | .function node => do return .function (← node.analyze)

/-- The function without a result and a name that has one statement only. -/
def frame (node : Stmt) : Function :=
  { ret := .void, name := { name := "_", pos := ⟨0, 0⟩ }, formals := [], body := ⟨[], [node]⟩ }

/-- The source text of a part. A statement is shown as the only one of a function. -/
def source : Part → String
  | .decls list => Decl.sourceOfList 2 0 list
  | .stmt node => (frame node).source 2 0
  | .expr node => node.source
  | .function node => node.source 2 0

end Part

/-- What can be asked of a session. -/
inductive Command
  /-- Open a scope. -/
  | enter
  /-- Close the innermost scope. -/
  | leave
  /-- Analyse a part in the table and keep it. -/
  | keep (part : Part)
  /-- Analyse a part that was kept, once more. -/
  | again (index : Nat)
  /-- Analyse a part in the table. -/
  | once (part : Part)
  /-- Analyse a program in a table of its own. -/
  | program (program : Program)
  /-- Declare a struct in the table. -/
  | struct (decl : StructDecl)
  /-- Declare a variable in the table. -/
  | var (decl : VarDecl)
  /-- Declare a variable among the fields. -/
  | field (decl : VarDecl)
  /-- Declare variables among the fields. -/
  | fields (decls : List VarDecl)
  /-- Declare the variables of a list among the fields. -/
  | members (decls : List Decl)
  /-- Declare the fields as a struct and begin with new ones. -/
  | define (name : String)
  /-- Declare a symbol in the table. -/
  | declare (name : String) (symbol : Symbol)
  /-- Look a name up in the table. -/
  | lookup (name : String)

/-- What a session answers. -/
inductive Answer
  | done
  /-- The source text of what was analysed. -/
  | source (text : String)
  /-- A symbol, if there is one. -/
  | symbol (symbol : Option Symbol)
  /-- The table refused. -/
  | refused (reason : TableError)
  /-- No part was kept under this number. -/
  | noSuchPart

/-- The state of a session. -/
structure Session where
  table : SymbolTable
  fields : FieldTable := Scope.empty
  kept : List Part := []

namespace Session

/-- Runs a step on the table of a session. -/
def onTable {α : Type} (session : Session) (step : Analysis α) : Traced (α × Session) := do
  let (value, table) ← step.run session.table
  return (value, { session with table })

/-- Runs a step on the fields of a session. -/
def onFields {α : Type} (session : Session) (step : Declaring FieldTable α) :
    Traced (α × Session) := do
  let (value, fields) ← step.run session.fields
  return (value, { session with fields })

/-- Begins with new fields. -/
def withoutFields (session : Session) : Session :=
  { session with fields := Scope.empty }

/-- Carries out one command. -/
def perform (session : Session) : Command → Traced (Answer × Session)
  | .enter => do
    let (_, session) ← session.onTable enterScope
    return (.done, session)
  | .leave => do
    let (_, session) ← session.onTable leaveScope
    return (.done, session)
  | .keep part => do
    let (part, session) ← session.onTable part.analyze
    return (.source part.source, { session with kept := session.kept ++ [part] })
  | .again index =>
    match session.kept[index]? with
    | none => return (.noSuchPart, session)
    | some part => do
      let (part, session) ← session.onTable part.analyze
      return (.source part.source, { session with kept := session.kept.set index part })
  | .once part => do
    let (part, session) ← session.onTable part.analyze
    return (.source part.source, session)
  | .program program => do
    let program ← program.analyze
    return (.source (program.source 2), session)
  | .struct decl => do
    let (_, session) ← session.onTable decl.analyze
    return (.done, session)
  | .var decl => do
    let (symbol, session) ← session.onTable do decl.declare (← get)
    return (.symbol symbol, session)
  | .field decl => do
    let (symbol, session) ← session.onFields (decl.declare session.table)
    return (.symbol symbol, session)
  | .fields decls => do
    let (_, session) ← session.onFields (declareFields session.table decls)
    return (.done, session)
  | .members decls => do
    let (_, session) ← session.onFields (declareMembers session.table decls)
    return (.done, session)
  | .define name =>
    let emptied := session.withoutFields
    match session.table.declare name (.structDefinition session.fields) with
    | .ok table => return (.done, { emptied with table })
    | .error reason => return (.refused reason, emptied)
  | .declare name symbol =>
    match session.table.declare name symbol with
    | .ok table => return (.done, { session with table })
    | .error reason => return (.refused reason, session)
  | .lookup name =>
    match session.table.find name with
    | .ok symbol => return (.symbol symbol, session)
    | .error reason => return (.refused reason, session)

/-- Carries out commands, one after the other. -/
def run (session : Session) : List Command → Traced (List Answer × Session)
  | [] => return ([], session)
  | command :: rest => do
    let (answer, session) ← session.perform command
    let (answers, session) ← session.run rest
    return (answer :: answers, session)

end Session

/-! ### A session with a receiver -/

namespace Analyzer

section

variable {σ : Type}

/-- Runs a step on the table of a session. -/
def onTable {α : Type} (session : Session) (step : AnalysisTo σ α) : Reporting σ (α × Session) := do
  let (value, table) ← step.run session.table
  return (value, { session with table })

/-- Runs a step on the fields of a session. -/
def onFields {α : Type} (session : Session) (step : DeclaringTo σ FieldTable α) :
    Reporting σ (α × Session) := do
  let (value, fields) ← step.run session.fields
  return (value, { session with fields })

variable [Sink σ]

/-- Analyses a part in a table. -/
def analyzePart : Part → AnalysisTo σ Part
  | .decls list => do return .decls (← analyzeDecls list)
  | .stmt node => do return .stmt (← analyzeStmt node)
  | .expr node => do return .expr (← analyzeExpr node)
  | .function node => do return .function (← analyzeFunction node)

/-- Carries out one command of a session. -/
def perform (session : Session) : Command → Reporting σ (Answer × Session)
  | .enter => do
    let (_, session) ← onTable session enterScope
    return (.done, session)
  | .leave => do
    let (_, session) ← onTable session leaveScope
    return (.done, session)
  | .keep part => do
    let (part, session) ← onTable session (analyzePart part)
    return (.source part.source, { session with kept := session.kept ++ [part] })
  | .again index =>
    match session.kept[index]? with
    | none => return (.noSuchPart, session)
    | some part => do
      let (part, session) ← onTable session (analyzePart part)
      return (.source part.source, { session with kept := session.kept.set index part })
  | .once part => do
    let (part, session) ← onTable session (analyzePart part)
    return (.source part.source, session)
  | .program program => do
    let program ← analyze program
    return (.source (program.source 2), session)
  | .struct decl => do
    let (_, session) ← onTable session (declareStruct decl)
    return (.done, session)
  | .var decl => do
    let (symbol, session) ← onTable session do declareVar (← get) decl
    return (.symbol symbol, session)
  | .field decl => do
    let (symbol, session) ← onFields session (declareVar session.table decl)
    return (.symbol symbol, session)
  | .fields decls => do
    let (_, session) ← onFields session (declareFields session.table decls)
    return (.done, session)
  | .members decls => do
    let (_, session) ← onFields session (declareMembers session.table decls)
    return (.done, session)
  | .define name =>
    let emptied := session.withoutFields
    match session.table.declare name (.structDefinition session.fields) with
    | .ok table => return (.done, { emptied with table })
    | .error reason => return (.refused reason, emptied)
  | .declare name symbol =>
    match session.table.declare name symbol with
    | .ok table => return (.done, { session with table })
    | .error reason => return (.refused reason, session)
  | .lookup name =>
    match session.table.find name with
    | .ok symbol => return (.symbol symbol, session)
    | .error reason => return (.refused reason, session)

/-- Carries out commands of a session, one after the other. -/
def run (session : Session) : List Command → Reporting σ (List Answer × Session)
  | [] => return ([], session)
  | command :: rest => do
    let (answer, session) ← perform session command
    let (answers, session) ← run session rest
    return (answer :: answers, session)

end

end Analyzer

end NameBinding
