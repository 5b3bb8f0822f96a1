/-
This file defines the stack of scopes in which a program's names are declared and looked up.
Declaring and the check for duplicates concern the innermost scope only. A use of a name is looked
up from the innermost scope outwards, so an inner declaration hides an outer one for as long as its
scope lives. Without any scope every operation but opening one is refused.
-/

import NameBinding.Symbol

namespace NameBinding

/-- Scopes, innermost first. -/
structure SymbolTable where
  scopes : List (Scope Symbol) := []

namespace SymbolTable

/-- The table without scopes. -/
def empty : SymbolTable := ⟨[]⟩

/-- The table with one scope, which has no declarations. -/
def new : SymbolTable := ⟨[Scope.empty]⟩

/-- How many scopes are open. -/
def depth (table : SymbolTable) : Nat :=
  table.scopes.length

/-- Whether no scope is open. -/
def isEmpty (table : SymbolTable) : Bool :=
  table.scopes.isEmpty

/-- Opens a new innermost scope. -/
def push (table : SymbolTable) : SymbolTable :=
  ⟨Scope.empty :: table.scopes⟩

/-- Closes the innermost scope. -/
def pop (table : SymbolTable) : Except TableError SymbolTable :=
  match table.scopes with
  | [] => .error .scopeUnderflow
  | _ :: outer => .ok ⟨outer⟩

/-- What a name stands for in the innermost scope. -/
def findLocal (table : SymbolTable) (name : String) : Except TableError (Option Symbol) :=
  match table.scopes with
  | [] => .error .noActiveScope
  | innermost :: _ => .ok (innermost.find? name)

/-- What a name stands for in the innermost of the scopes that have it. -/
def visible? (table : SymbolTable) (name : String) : Option Symbol :=
  table.scopes.findSome? fun scope => scope.find? name

/-- What a name stands for, looked up from the innermost scope outwards. -/
def find (table : SymbolTable) (name : String) : Except TableError (Option Symbol) :=
  match table.scopes with
  | [] => .error .noActiveScope
  | _ :: _ => .ok (table.visible? name)

/-- Whether the innermost scope takes a declaration of a name. -/
def takes (table : SymbolTable) (name : String) : Bool :=
  match table.findLocal name with
  | .ok none => true
  | _ => false

/-- Declares a name in the innermost scope, unless that scope has it. -/
def declare (table : SymbolTable) (name : String) (symbol : Symbol) :
    Except TableError SymbolTable :=
  match table.scopes with
  | [] => .error .noActiveScope
  | innermost :: outer => (innermost.declare name symbol).map fun scope => ⟨scope :: outer⟩

/-- Changes what a name stands for in the innermost of the scopes that have it. -/
def replaceIn (name : String) (symbol : Symbol) : List (Scope Symbol) → List (Scope Symbol)
  | [] => []
  | scope :: outer =>
    match scope.find? name with
    | some _ => scope.replace name symbol :: outer
    | none => scope :: replaceIn name symbol outer

/-- Attaches parameter types to the visible function of this name. The answer is absent if the name
is not that of a function; otherwise it says whether the list was attached. -/
def attachParams (table : SymbolTable) (name : String) (types : List String) :
    Option Bool × SymbolTable :=
  match table.visible? name with
  | some (.function signature) =>
    match signature.attach? types with
    | some complete => (some true, ⟨replaceIn name (.function complete) table.scopes⟩)
    | none => (some false, table)
  | _ => (none, table)

/-- Attaches parameter types to the function of this name that is visible outside of the innermost
scope, and answers in the same way. -/
def attachOutside (table : SymbolTable) (name : String) (types : List String) :
    Option Bool × SymbolTable :=
  match table.scopes with
  | [] => (none, table)
  | innermost :: outer =>
    let (attached, rest) := attachParams ⟨outer⟩ name types
    (attached, ⟨innermost :: rest.scopes⟩)

end SymbolTable

end NameBinding
