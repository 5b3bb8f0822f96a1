/-
This file analyses declarations, statements and whole programs. Names are declared in the order of
the text, and each is visible from its declaration on. The body of a function shares one scope with
its formals; the body of a loop or of a branch has a scope of its own, and the two branches of one
statement have nothing in common. A function is declared before its formals, and the types of its
parameters are attached to it once they are declared, so its body can call it.
-/

import NameBinding.Analysis.Declaration
import NameBinding.Analysis.Expression

namespace NameBinding

namespace Expr

/-- Binds the names in an expression against the table as it is. -/
def analyze (expr : Expr) : Analysis Expr := do
  expr.resolve (← get)

end Expr

/-- The signature of a function: its return type, and the types of all its formals attached. -/
def signatureOf (ret : TypeName) (formals : List Formal) : Signature :=
  { returns := ret.descriptor, params := some (formals.map fun formal => formal.type.descriptor) }

/-- Attaches the types of its formals to a function, whose own scope is open by then. If the scope
around took the declaration it holds the symbol; otherwise nothing does. -/
def attachFormals (name : Ident) (signature : Signature) (held : Bool) (formals : List Formal) :
    Analysis Unit := do
  let types := formals.map fun formal => formal.type.descriptor
  if held then
    match (← get).attachOutside name.name types with
    | (some false, _) => note (.attachRefused name.name)
    | (_, table) => set table
  else
    match signature.attach? types with
    | some _ => return ()
    | none => note (.attachRefused name.name)

mutual

/-- Declares the local names of a block, then analyses its statements. -/
def Block.analyze : Block → Analysis Block
  | ⟨decls, stmts⟩ => do
    let decls ← Decl.analyzeList decls
    let stmts ← Stmt.analyzeList stmts
    return ⟨decls, stmts⟩

/-- Binds the names in a statement. -/
def Stmt.analyze : Stmt → Analysis Stmt
  | .assign lhs rhs => do
    let lhs ← lhs.analyze
    let rhs ← rhs.analyze
    return .assign lhs rhs
  | .postInc target => do
    let target ← target.analyze
    return .postInc target
  | .postDec target => do
    let target ← target.analyze
    return .postDec target
  | .ifThen cond body => do
    let cond ← cond.analyze
    enterScope
    let body ← body.analyze
    leaveScope
    return .ifThen cond body
  | .ifElse cond thenBranch elseBranch => do
    let cond ← cond.analyze
    enterScope
    let thenBranch ← thenBranch.analyze
    leaveScope
    enterScope
    let elseBranch ← elseBranch.analyze
    leaveScope
    return .ifElse cond thenBranch elseBranch
  | .whileDo cond body => do
    let cond ← cond.analyze
    enterScope
    let body ← body.analyze
    leaveScope
    return .whileDo cond body
  | .read target => do
    let target ← target.analyze
    return .read target
  | .write value => do
    let value ← value.analyze
    return .write value
  | .call callee args => do
    let callee ← callee.resolve (← get)
    let args ← Expr.resolveList (← get) args
    return .call callee args
  | .ret none => return .ret none
  | .ret (some value) => do
    let value ← value.analyze
    return .ret (some value)

/-- Analyses statements, one after the other. -/
def Stmt.analyzeList : List Stmt → Analysis (List Stmt)
  | [] => return []
  | stmt :: rest => do
    let stmt ← stmt.analyze
    let rest ← Stmt.analyzeList rest
    return stmt :: rest

/-- Declares a function and analyses its formals and its body in a scope of their own. The function
is declared before the types of its parameters are known, so that its body can call it. -/
def Function.analyze : Function → Analysis Function
  | ⟨ret, name, formals, body⟩ => do
    let signature : Signature := { returns := ret.descriptor }
    let held := (← get).takes name.name
    declareDefinition name (.function signature) (some (.declaredFunction name.name))
    enterScope
    Formal.declareList formals
    attachFormals name signature held formals
    let body ← body.analyze
    leaveScope
    return ⟨ret, name, formals, body⟩

/-- Declares what a declaration introduces, and analyses what is in it. -/
def Decl.analyze : Decl → Analysis Decl
  | .var decl => do
    let _ ← decl.declare (← get)
    return .var decl
  | .func decl => do
    let decl ← decl.analyze
    return .func decl
  | .struct decl => do
    decl.analyze
    return .struct decl

/-- Analyses declarations, one after the other. -/
def Decl.analyzeList : List Decl → Analysis (List Decl)
  | [] => return []
  | decl :: rest => do
    let decl ← decl.analyze
    let rest ← Decl.analyzeList rest
    return decl :: rest

end

namespace Program

/-- Analyses a program against a table of its own, which has one scope and is given up at the end. -/
def analyze (program : Program) : Traced Program := do
  note (.programEntered program.decls.length)
  let (decls, _) ← (Decl.analyzeList program.decls).run SymbolTable.new
  return ⟨decls⟩

/-- The naming errors of a program, and the program with its names bound. -/
def check (program : Program) : Program × Diagnostics :=
  let outcome := program.analyze
  (outcome.value, outcome.trace.deliver {})

end Program

end NameBinding
