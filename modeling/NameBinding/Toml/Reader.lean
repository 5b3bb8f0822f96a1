/-
This file reads whole settings documents. A document is a sequence of lines: members of a table,
headings that open tables, comments and empty lines. Values in brackets and braces may stand inside
one another to a limited depth.
-/

import NameBinding.Toml.Scalar

namespace NameBinding

namespace Toml

/-- How deep brackets and braces may stand inside one another, and how many parts a key may have. -/
def maxDepth : Nat := 79

/-- Reads the values of a list up to its end, at most this many. Lines may end between them. -/
def items (value : Scan Value) : Nat → Scan (List Value)
  | 0, _ => none
  | bound + 1, input =>
    match skipLines input.length input with
    | ']' :: rest => some ([], rest)
    | input => do
      let (item, rest) ← value input
      match skipLines rest.length rest with
      | ',' :: rest =>
        let (more, rest) ← items value bound rest
        return (item :: more, rest)
      | ']' :: rest => return ([item], rest)
      | _ => none

/-- Reads a key, the sign of equality and a value. -/
def assignment (value : Scan Value) : Scan ((List String × String) × Value) := fun input => do
  let (name, rest) ← key maxDepth input
  match rest with
  | '=' :: rest =>
    let (value, rest) ← value (skipBlanks rest)
    return ((name, value), rest)
  | _ => none

/-- Reads the members of a table in braces up to its end, at most this many, on one line. -/
def members (value : Scan Value) : Nat → Members → Scan Members
  | 0, _, _ => none
  | bound + 1, found, input => do
    let (((path, name), item), rest) ← assignment value input
    let found ← define path name item .braces found
    match skipBlanks rest with
    | ',' :: rest => members value bound found rest
    | '\x7d' :: rest => return (found, rest)
    | _ => none

/-- Reads a value, with a reader for values one level further inside. -/
def valueWith (inside : Option (Scan Value)) : Scan Value := fun input =>
  match input, inside with
  | '[' :: rest, some value => do
    let (list, rest) ← items value (rest.length + 1) rest
    return (.list list, rest)
  | '\x7b' :: rest, some value =>
    match skipBlanks rest with
    | '\x7d' :: rest => some (.table .braces [], rest)
    | rest => do
      let (table, rest) ← members value (rest.length + 1) [] rest
      return (.table .braces table, rest)
  | 't' :: 'r' :: 'u' :: 'e' :: rest, _ => some (.bool true, rest)
  | 'f' :: 'a' :: 'l' :: 's' :: 'e' :: rest, _ => some (.bool false, rest)
  | c :: rest, _ =>
    if c = '"' ∨ c = '\'' then (text (c :: rest)).map fun (value, rest) => (.text value, rest)
    else if startsDate (c :: rest) || startsTime (c :: rest) then moment (c :: rest)
    else number (c :: rest)
  | [], _ => none

/-- Reads a value in which brackets and braces stand inside one another at most so deep. -/
def value : Nat → Scan Value
  | 0 => valueWith none
  | levels + 1 => valueWith (some (value levels))

/-- A document that is being read: its members so far, and the path of the table that the next
members belong to. -/
structure State where
  root : Members := []
  path : List String := []

/-- Adds a member to the table under the last heading. -/
def State.assign (state : State) (path : List String) (name : String) (value : Value) :
    Option State := do
  let root ← descend false (define path name value) state.path .heading state.root
  return { state with root }

/-- Reads one line that is not empty. -/
def line (state : State) (input : List Char) : Option (State × List Char) :=
  match input with
  | '[' :: '[' :: rest => do
    let ((path, name), rest) ← key maxDepth rest
    match rest with
    | ']' :: ']' :: rest =>
      let root ← openTables path name state.root
      return ({ root, path := path ++ [name] }, ← restOfLine? rest)
    | _ => none
  | '[' :: rest => do
    let ((path, name), rest) ← key maxDepth rest
    match rest with
    | ']' :: rest =>
      let root ← openTable path name state.root
      return ({ root, path := path ++ [name] }, ← restOfLine? rest)
    | _ => none
  | _ => do
    let (((path, name), item), rest) ← assignment (value maxDepth) input
    return (← state.assign path name item, ← restOfLine? rest)

/-- Reads the lines of a document, at most this many. -/
def lines : Nat → State → List Char → Option State
  | 0, _, _ => none
  | bound + 1, state, input =>
    match skipLines input.length input with
    | [] => some state
    | '#' :: rest =>
      match rest.dropWhile isCommentChar with
      | [] => some state
      | _ => none
    | input => do
      let (state, rest) ← line state input
      lines bound state rest

/-- Reads a document. A mark of the byte order may stand before it. -/
def parse (document : String) : Option Members :=
  let input := match document.toList with
    | '\ufeff' :: rest => rest
    | input => input
  (lines (input.length + 1) {} input).map State.root

end Toml

end NameBinding
