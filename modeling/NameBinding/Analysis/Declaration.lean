/-
This file declares names. A variable, a formal and a field follow the same rules, whether they are
declared in the innermost scope of a table or among the fields of a struct: a void one declares
nothing, a struct type has to be visible as one from the scopes around, and a name that is taken is
refused. A wrong struct type is reported but does not hinder the declaration.
-/

import NameBinding.Analysis.Trace
import NameBinding.Tree

namespace NameBinding

/-- Something in which names can be declared. -/
class Declarable (σ : Type) where
  /-- What a name stands for in the scope that takes the declarations. -/
  findLocal : σ → String → Except TableError (Option Symbol)
  /-- Adds a declaration to that scope. -/
  declare : σ → String → Symbol → Except TableError σ

instance : Declarable SymbolTable where
  findLocal := SymbolTable.findLocal
  declare := SymbolTable.declare

instance : Declarable FieldTable where
  findLocal fields name := .ok (fields.find? name)
  declare := Scope.declare

/-- A step of an analysis that declares names. -/
abbrev Declaring (σ : Type) := StateT σ Traced

namespace SymbolTable

/-- Whether a name is visible as that of a struct type. -/
def definesStruct (table : SymbolTable) (name : String) : Bool :=
  match table.visible? name with
  | some symbol => symbol.fields?.isSome
  | none => false

end SymbolTable

namespace TypeName

/-- The symbol of a variable of this type. -/
def symbol : TypeName → Symbol
  | struct name => .structInstance name.name
  | type => .plain type.descriptor

/-- Reports a struct type that is not visible as one. -/
def check (outer : SymbolTable) : TypeName → Traced Unit
  | struct name =>
    if outer.definesStruct name.name then return ()
    else report .invalidStructType name.pos
  | _ => return ()

end TypeName

section

variable {σ : Type} [Declarable σ]

/-- Declares a symbol under a name that is not taken. -/
def declareSymbol (name : Ident) (symbol : Symbol) : Declaring σ (Option Symbol) := do
  match Declarable.findLocal (← get) name.name with
  | .ok (some _) =>
    report .multiplyDeclared name.pos
    return none
  | _ =>
    match Declarable.declare (← get) name.name symbol with
    | .ok current =>
      set current
      note (.declared name.name symbol)
      return some symbol
    | .error (.duplicateName _) =>
      report .multiplyDeclared name.pos
      return none
    | .error reason =>
      note (.undeclarable name.name reason)
      return none

/-- Declares a name with a type. Struct types are looked up in the scopes around. -/
def declareTyped (outer : SymbolTable) (type : TypeName) (name : Ident) :
    Declaring σ (Option Symbol) := do
  if type.isVoid then
    report .nonFunctionVoid name.pos
    return none
  else
    type.check outer
    declareSymbol name type.symbol

/-- Declares a variable or a field, and gives its symbol if it could be declared. -/
def VarDecl.declare (outer : SymbolTable) (decl : VarDecl) : Declaring σ (Option Symbol) :=
  declareTyped outer decl.type decl.name

/-- Declares fields, one after the other. -/
def declareFields (outer : SymbolTable) : List VarDecl → Declaring σ Unit
  | [] => return ()
  | field :: rest => do
    let _ ← field.declare outer
    declareFields outer rest

end

/-- Declares the variables of a list among the fields of a struct. A struct has no functions and no
structs in it, so those are passed over. -/
def declareMembers (outer : SymbolTable) : List Decl → Declaring FieldTable Unit
  | [] => return ()
  | .var decl :: rest => do
    let _ ← decl.declare outer
    declareMembers outer rest
  | .func decl :: rest => do
    note (.skippedFunction decl.name.name)
    declareMembers outer rest
  | .struct decl :: rest => do
    note (.skippedStruct decl.name.name)
    declareMembers outer rest

/-! ### Declarations in a table -/

/-- A step of an analysis on a table. -/
abbrev Analysis := Declaring SymbolTable

/-- Opens a scope. -/
def enterScope : Analysis Unit := do
  modify SymbolTable.push
  note (.scopeEntered (← get).depth)

/-- Closes the innermost scope. Without one, this happens to have no effect. -/
def leaveScope : Analysis Unit := do
  match (← get).pop with
  | .ok table =>
    set table
    note (.scopeLeft table.depth)
  | .error _ => note .leaveRefused

/-- Declares a function or a struct in the innermost scope. -/
def declareDefinition (name : Ident) (symbol : Symbol) (event : Option Event) :
    Analysis Unit := do
  match (← get).declare name.name symbol with
  | .ok table =>
    set table
    match event with
    | some event => note event
    | none => return ()
  | .error (.duplicateName _) => report .multiplyDeclared name.pos
  | .error reason => note (.undeclarable name.name reason)

namespace Formal

/-- Declares the formals of a function, one after the other. -/
def declareList : List Formal → Analysis Unit
  | [] => return ()
  | formal :: rest => do
    let _ ← declareTyped (← get) formal.type formal.name
    declareList rest

end Formal

namespace StructDecl

/-- Reads the body of a struct and declares the struct. A struct whose name is taken is reported
before its fields are looked at, and declares nothing after them. -/
def analyze (decl : StructDecl) : Analysis Unit := do
  let table ← get
  let duplicate := match table.findLocal decl.name.name with
    | .ok (some _) => true
    | _ => false
  if duplicate then
    report .multiplyDeclared decl.name.pos
  let (_, fields) ← (declareFields table decl.fields).run Scope.empty
  note (.structRead decl.name.name fields.size)
  if duplicate then
    return ()
  else
    declareDefinition decl.name (.structDefinition fields) none

end StructDecl

end NameBinding
