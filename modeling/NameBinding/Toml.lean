/-
This file defines settings documents in the TOML notation, and how the lines of one build up its
tables. A table can come about in four ways: under a heading of its own, on the way to a heading or
through a key with points in it, and as a value in braces. Which of them may be added to later, and
how, depends on that way. Whatever would define a thing twice is refused.
-/

namespace NameBinding

namespace Toml

/-- How a table came about. -/
inductive Origin
  /-- Under a heading of its own. -/
  | heading
  /-- On the way to a heading. -/
  | implied
  /-- Through a key with points in it. -/
  | dotted
  /-- As a value in braces. -/
  | braces
deriving DecidableEq

/-- The values of a document. Numbers with a point and moments in time have no use in settings, so
only their sort is kept. -/
inductive Value
  | text (value : String)
  | int (value : Int)
  | float
  | bool (value : Bool)
  | moment
  | list (items : List Value)
  | table (origin : Origin) (members : List (String × Value))
  /-- The tables that share a heading in double brackets. -/
  | tables (items : List (List (String × Value)))

/-- The members of a table. -/
abbrev Members := List (String × Value)

/-- Puts a value in the place of the one that a key has. -/
def replace (key : String) (value : Value) (members : Members) : Members :=
  members.map fun member => if member.1 = key then (key, value) else member

/-- Changes the table at the end of a path, and makes the tables on the way that are missing. A key
with points in it cannot enter a table that has a heading of its own; of several tables with one
heading, the last is entered. -/
def descend (dotted : Bool) (change : Origin → Members → Option Members) :
    List String → Origin → Members → Option Members
  | [], origin, members => change origin members
  | key :: path, _, members =>
    match members.lookup key with
    | none => do
      let made := if dotted then .dotted else .implied
      let inner ← descend dotted change path made []
      return members ++ [(key, .table made inner)]
    | some (.table .braces _) => none
    | some (.table origin inner) =>
      if dotted ∧ origin = .heading then none
      else do
        let inner ← descend dotted change path origin inner
        return replace key (.table origin inner) members
    | some (.tables items) =>
      match items.getLast? with
      | none => none
      | some inner => do
        let inner ← descend dotted change path .heading inner
        return replace key (.tables (items.dropLast ++ [inner])) members
    | some _ => none

/-- Adds a member, unless its key is taken. -/
def add (key : String) (value : Value) (members : Members) : Option Members :=
  match members.lookup key with
  | none => some (members ++ [(key, value)])
  | some _ => none

/-- Adds a value under a key, which may have points in it. The points lead through tables that came
about in the same way, and through no others. -/
def define (path : List String) (key : String) (value : Value) (origin : Origin)
    (members : Members) : Option Members :=
  descend true
    (fun origin members =>
      if decide (origin = .dotted) = path.isEmpty then none else add key value members)
    path origin members

/-- Opens the table of a heading. It may have been implied by an earlier heading. -/
def openTable (path : List String) (key : String) (members : Members) : Option Members :=
  descend false
    (fun _ members =>
      match members.lookup key with
      | none => some (members ++ [(key, .table .heading [])])
      | some (.table .implied inner) => some (replace key (.table .heading inner) members)
      | some _ => none)
    path .heading members

/-- Opens one more table of a heading in double brackets. -/
def openTables (path : List String) (key : String) (members : Members) : Option Members :=
  descend false
    (fun _ members =>
      match members.lookup key with
      | none => some (members ++ [(key, .tables [[]])])
      | some (.tables items) => some (replace key (.tables (items ++ [[]])) members)
      | some _ => none)
    path .heading members

end Toml

end NameBinding
