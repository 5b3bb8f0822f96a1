/-
This file defines one scope of names. A scope is the list of its declarations in the order in which
they were made. The first declaration of a name is the one that counts: a second one is refused and
changes nothing, so a name stands in the list at most once. A block of a program has such a scope,
and so has the body of a struct, which is why the values that names stand for are a parameter here.
-/

namespace NameBinding

/-- Why an operation on names cannot be carried out. -/
inductive TableError
  /-- There is no scope left to remove. -/
  | scopeUnderflow
  /-- There is no scope to declare in or to look into. -/
  | noActiveScope
  /-- The innermost scope already has the name. -/
  | duplicateName (name : String)
deriving DecidableEq

/-- The wording of a refusal. -/
def TableError.message : TableError → String
  | scopeUnderflow => "cannot pop a scope: no scope is active"
  | noActiveScope => "symbol table has no active scope"
  | duplicateName name => "'" ++ name ++ "' is already declared in this scope"

/-- Declarations of names, oldest first. -/
structure Scope (α : Type) where
  entries : List (String × α) := []

namespace Scope

variable {α : Type}

/-- The scope without declarations. -/
def empty : Scope α := ⟨[]⟩

/-- What a name stands for in this scope. -/
def find? (scope : Scope α) (name : String) : Option α :=
  scope.entries.lookup name

/-- The declared names, oldest first. -/
def names (scope : Scope α) : List String :=
  scope.entries.map Prod.fst

/-- How many names are declared. -/
def size (scope : Scope α) : Nat :=
  scope.entries.length

/-- Whether nothing is declared. -/
def isEmpty (scope : Scope α) : Bool :=
  scope.entries.isEmpty

/-- Adds a declaration at the end, unless the name is taken. -/
def declare (scope : Scope α) (name : String) (value : α) : Except TableError (Scope α) :=
  match scope.find? name with
  | some _ => .error (.duplicateName name)
  | none => .ok ⟨scope.entries ++ [(name, value)]⟩

/-- Changes what a declared name stands for, and keeps its place. -/
def replace (scope : Scope α) (name : String) (value : α) : Scope α :=
  ⟨scope.entries.map fun entry => if entry.1 = name then (name, value) else entry⟩

end Scope

end NameBinding
