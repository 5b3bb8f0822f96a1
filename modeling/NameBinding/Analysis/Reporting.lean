/-
This file defines the analysis that has a receiver of errors at hand. Each error reaches it when it
is found, so the receiver changes while the analysis goes on, and every step hands it to the next
one. There are two ways to tell a receiver of an error, by its kind and as a text, and the step that
finds the error chooses between them. Apart from the receiver the analyzer counts the closings of a
scope that were refused, and it keeps no account of itself.
-/

import NameBinding.Analysis.Program

namespace NameBinding

/-- A receiver of errors, and how many closings of a scope were refused so far. -/
structure Analyzer (σ : Type) where
  sink : σ
  underflows : Nat := 0

/-- A step of an analysis with a receiver. -/
abbrev Reporting (σ : Type) := StateM (Analyzer σ)

/-- A step of an analysis with a receiver that declares names. -/
abbrev DeclaringTo (σ τ : Type) := StateT τ (Reporting σ)

/-- A step of an analysis with a receiver on a table. -/
abbrev AnalysisTo (σ : Type) := DeclaringTo σ SymbolTable

namespace Analyzer

section

variable {σ : Type} [Sink σ]

/-- Tells the receiver of an error by its kind. -/
def report (kind : DiagnosticKind) (pos : Position) : Reporting σ Unit :=
  modify fun analyzer => { analyzer with sink := Sink.report analyzer.sink ⟨kind, pos⟩ }

/-- Tells the receiver of an error as a text. -/
def reportText (pos : Position) (message : String) : Reporting σ Unit :=
  modify fun analyzer => { analyzer with sink := Sink.reportText analyzer.sink pos message }

/-- Counts a closing that was refused. -/
def refuseLeaving : Reporting σ Unit :=
  modify fun analyzer => { analyzer with underflows := analyzer.underflows + 1 }

/-! ### Expressions -/

/-- Binds the use of a name. -/
def resolveIdent (table : SymbolTable) (ident : Ident) : Reporting σ Ident :=
  match table.find ident.name with
  | .ok (some symbol) => return { ident with symbol := some symbol }
  | .ok none => do
    report .undeclared ident.pos
    return ident
  | .error _ => return ident

/-- The fields from which an access with this base selects. At most one error is found, and none if
the base failed. -/
def selectable (table : SymbolTable) (fieldPos : Position) :
    Expr → Reporting σ (Option FieldTable)
  | .id ident =>
    match ident.symbol with
    | none => return none
    | some symbol =>
      match table.fieldsOf? symbol with
      | some fields => return some fields
      | none => do
        report .colonAccessOfNonStruct ident.pos
        return none
  | .access _ _ (some symbol) =>
    match symbol.fields? with
    | some fields => return some fields
    | none => do
      report .colonAccessOfNonStruct fieldPos
      return none
  | .access _ field none => do
    if field.isBound then
      report .invalidStructFieldName field.pos
    return none
  | _ => do
    report .colonAccessOfNonStruct fieldPos
    return none

/-- Selects a field. -/
def select (table : SymbolTable) (base : Expr) (field : Ident) (exposed : Option Symbol)
    (fields : FieldTable) : Reporting σ Expr :=
  match fields.find? field.name with
  | some symbol =>
    let exposed := match symbol.structName? with
      | some structName => table.visible? structName
      | none => exposed
    return .access base { field with symbol := some symbol } exposed
  | none => do
    report .undeclared field.pos
    return .access base field exposed

mutual

/-- Binds the names in an expression, from left to right. -/
def resolve (table : SymbolTable) : Expr → Reporting σ Expr
  | .truth value pos => return .truth value pos
  | .id ident => do
    let ident ← resolveIdent table ident
    return .id ident
  | .intLit value pos => return .intLit value pos
  | .strLit value pos => return .strLit value pos
  | .access base field exposed => do
    let base ← resolve table base
    match ← selectable table field.pos base with
    | some fields => select table base field exposed fields
    | none => return .access base field exposed
  | .assign lhs rhs => do
    let lhs ← resolve table lhs
    let rhs ← resolve table rhs
    return .assign lhs rhs
  | .call callee args => do
    let callee ← resolveIdent table callee
    let args ← resolveList table args
    return .call callee args
  | .unary op operand => do
    let operand ← resolve table operand
    return .unary op operand
  | .binary op lhs rhs => do
    let lhs ← resolve table lhs
    let rhs ← resolve table rhs
    return .binary op lhs rhs

/-- Binds the names in expressions, one after the other. -/
def resolveList (table : SymbolTable) : List Expr → Reporting σ (List Expr)
  | [] => return []
  | expr :: rest => do
    let expr ← resolve table expr
    let rest ← resolveList table rest
    return expr :: rest

end

/-! ### Declarations of names -/

/-- Reports a struct type that is not visible as one. -/
def checkType (outer : SymbolTable) : TypeName → Reporting σ Unit
  | .struct name =>
    if outer.definesStruct name.name then return ()
    else report .invalidStructType name.pos
  | _ => return ()

section

variable {τ : Type} [Declarable τ]

/-- Declares a symbol under a name that is not taken. -/
def declareSymbol (name : Ident) (symbol : Symbol) : DeclaringTo σ τ (Option Symbol) := do
  match Declarable.findLocal (← get) name.name with
  | .ok (some _) =>
    report (σ := σ) .multiplyDeclared name.pos
    return none
  | _ =>
    match Declarable.declare (← get) name.name symbol with
    | .ok current =>
      set current
      return some symbol
    | .error (.duplicateName _) =>
      report (σ := σ) .multiplyDeclared name.pos
      return none
    | .error _ => return none

/-- Declares a name with a type. Struct types are looked up in the scopes around. -/
def declareTyped (outer : SymbolTable) (type : TypeName) (name : Ident) :
    DeclaringTo σ τ (Option Symbol) := do
  if type.isVoid then
    report (σ := σ) .nonFunctionVoid name.pos
    return none
  else
    checkType (σ := σ) outer type
    declareSymbol name type.symbol

/-- Declares a variable or a field, and gives its symbol if it could be declared. -/
def declareVar (outer : SymbolTable) (decl : VarDecl) : DeclaringTo σ τ (Option Symbol) :=
  declareTyped outer decl.type decl.name

/-- Declares fields, one after the other. -/
def declareFields (outer : SymbolTable) : List VarDecl → DeclaringTo σ τ Unit
  | [] => return ()
  | field :: rest => do
    let _ ← declareVar outer field
    declareFields outer rest

end

/-- Declares the variables of a list among the fields of a struct, and passes over its functions and
structs. -/
def declareMembers (outer : SymbolTable) : List Decl → DeclaringTo σ FieldTable Unit
  | [] => return ()
  | .var decl :: rest => do
    let _ ← declareVar outer decl
    declareMembers outer rest
  | .func _ :: rest => declareMembers outer rest
  | .struct _ :: rest => declareMembers outer rest

/-! ### Declarations in a table -/

/-- Opens a scope. -/
def enterScope : AnalysisTo σ Unit :=
  modify SymbolTable.push

/-- Closes the innermost scope. Without one, the closing is counted. -/
def leaveScope : AnalysisTo σ Unit := do
  match (← get).pop with
  | .ok table => set table
  | .error _ => refuseLeaving (σ := σ)

/-- Declares a function or a struct in the innermost scope. -/
def declareDefinition (name : Ident) (symbol : Symbol) : AnalysisTo σ Unit := do
  match (← get).declare name.name symbol with
  | .ok table => set table
  | .error (.duplicateName _) => report (σ := σ) .multiplyDeclared name.pos
  | .error _ => return ()

/-- Declares the formals of a function, one after the other. -/
def declareFormals : List Formal → AnalysisTo σ Unit
  | [] => return ()
  | formal :: rest => do
    let _ ← declareTyped (← get) formal.type formal.name
    declareFormals rest

/-- Reads the body of a struct and declares the struct. -/
def declareStruct (decl : StructDecl) : AnalysisTo σ Unit := do
  let table ← get
  let duplicate := match table.findLocal decl.name.name with
    | .ok (some _) => true
    | _ => false
  if duplicate then
    report (σ := σ) .multiplyDeclared decl.name.pos
  let (_, fields) ← (declareFields (σ := σ) table decl.fields).run Scope.empty
  if duplicate then
    return ()
  else
    declareDefinition decl.name (.structDefinition fields)

/-- Attaches the types of its formals to a function, whose own scope is open by then. If the scope
around did not take the declaration, nothing holds the symbol. -/
def attachFormals (name : Ident) (held : Bool) (formals : List Formal) : AnalysisTo σ Unit := do
  if held then
    let types := formals.map fun formal => formal.type.descriptor
    match (← get).attachOutside name.name types with
    | (some false, _) => return ()
    | (_, table) => set table
  else
    return ()

/-! ### Statements and programs -/

/-- Binds the names in an expression against the table as it is. -/
def analyzeExpr (expr : Expr) : AnalysisTo σ Expr := do
  resolve (σ := σ) (← get) expr

mutual

/-- Declares the local names of a block, then analyses its statements. -/
def analyzeBlock : Block → AnalysisTo σ Block
  | ⟨decls, stmts⟩ => do
    let decls ← analyzeDecls decls
    let stmts ← analyzeStmts stmts
    return ⟨decls, stmts⟩

/-- Binds the names in a statement. -/
def analyzeStmt : Stmt → AnalysisTo σ Stmt
  | .assign lhs rhs => do
    let lhs ← analyzeExpr lhs
    let rhs ← analyzeExpr rhs
    return .assign lhs rhs
  | .postInc target => do
    let target ← analyzeExpr target
    return .postInc target
  | .postDec target => do
    let target ← analyzeExpr target
    return .postDec target
  | .ifThen cond body => do
    let cond ← analyzeExpr cond
    enterScope
    let body ← analyzeBlock body
    leaveScope
    return .ifThen cond body
  | .ifElse cond thenBranch elseBranch => do
    let cond ← analyzeExpr cond
    enterScope
    let thenBranch ← analyzeBlock thenBranch
    leaveScope
    enterScope
    let elseBranch ← analyzeBlock elseBranch
    leaveScope
    return .ifElse cond thenBranch elseBranch
  | .whileDo cond body => do
    let cond ← analyzeExpr cond
    enterScope
    let body ← analyzeBlock body
    leaveScope
    return .whileDo cond body
  | .read target => do
    let target ← analyzeExpr target
    return .read target
  | .write value => do
    let value ← analyzeExpr value
    return .write value
  | .call callee args => do
    let callee ← resolveIdent (σ := σ) (← get) callee
    let args ← resolveList (σ := σ) (← get) args
    return .call callee args
  | .ret none => return .ret none
  | .ret (some value) => do
    let value ← analyzeExpr value
    return .ret (some value)

/-- Analyses statements, one after the other. -/
def analyzeStmts : List Stmt → AnalysisTo σ (List Stmt)
  | [] => return []
  | stmt :: rest => do
    let stmt ← analyzeStmt stmt
    let rest ← analyzeStmts rest
    return stmt :: rest

/-- Declares a function and analyses its formals and its body in a scope of their own. -/
def analyzeFunction : Function → AnalysisTo σ Function
  | ⟨ret, name, formals, body⟩ => do
    let held := (← get).takes name.name
    declareDefinition name (.function { returns := ret.descriptor })
    enterScope
    declareFormals formals
    attachFormals name held formals
    let body ← analyzeBlock body
    leaveScope
    return ⟨ret, name, formals, body⟩

/-- Declares what a declaration introduces, and analyses what is in it. -/
def analyzeDecl : Decl → AnalysisTo σ Decl
  | .var decl => do
    let _ ← declareVar (← get) decl
    return .var decl
  | .func decl => do
    let decl ← analyzeFunction decl
    return .func decl
  | .struct decl => do
    declareStruct decl
    return .struct decl

/-- Analyses declarations, one after the other. -/
def analyzeDecls : List Decl → AnalysisTo σ (List Decl)
  | [] => return []
  | decl :: rest => do
    let decl ← analyzeDecl decl
    let rest ← analyzeDecls rest
    return decl :: rest

end

/-- Analyses a program against a table of its own. -/
def analyze (program : Program) : Reporting σ Program := do
  let (decls, _) ← (analyzeDecls program.decls).run SymbolTable.new
  return ⟨decls⟩

end

end Analyzer

end NameBinding
