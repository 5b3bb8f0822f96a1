/-
This file defines the files that a command can see. A path is followed name by name, from the working
directory, or from the root if it begins with a slash, and every place on the way has to be a
directory, also where the path turns back at once. Reading and writing fail for a cause, and then
nothing has changed.
-/

namespace NameBinding

/-- Why a file cannot be read or written. -/
inductive FileError
  | notFound
  | notDirectory
  | isDirectory
  /-- A path or a name in it is longer than the system takes. -/
  | tooLong
  /-- A path has the character in it that ends a path for the system. -/
  | cutShort
deriving DecidableEq

namespace FileError

/-- The wording of a failure. -/
def message : FileError → String
  | notFound => "No such file or directory (os error 2)"
  | notDirectory => "Not a directory (os error 20)"
  | isDirectory => "Is a directory (os error 21)"
  | tooLong => "File name too long (os error 36)"
  | cutShort => "file name contained an unexpected NUL byte"

end FileError

/-! ### Paths -/

/-- The greatest number of bytes of a path. -/
def maxPathBytes : Nat := 4095

/-- The greatest number of bytes of one name. -/
def maxNameBytes : Nat := 255

/-- A path that can be followed. -/
structure Path where
  /-- Whether it begins at the root. -/
  absolute : Bool
  /-- The names on the way. -/
  steps : List String
  /-- Whether a slash ends it. It leads to a directory then, or nowhere. -/
  closed : Bool
deriving DecidableEq

namespace Path

/-- The path that a text is. Several slashes in a row are one. -/
def ofText (text : String) : Except FileError Path :=
  let chars := text.toList
  if chars.contains '\x00' then .error .cutShort
  else if chars.isEmpty then .error .notFound
  else if maxPathBytes < text.utf8ByteSize then .error .tooLong
  else .ok {
    absolute := chars.head? = some '/'
    steps := ((chars.splitOn '/').filter fun step => !step.isEmpty).map String.ofList
    closed := chars.getLast? = some '/' }

end Path

/-! ### Places -/

/-- A place: the names on the way to it from the root, none of which turns back. -/
abbrev Place := List String

/-- What stands at a place. -/
inductive Entry
  | directory
  | file (text : String)
deriving DecidableEq

/-- The files and directories that a command can see. -/
structure Files where
  /-- The working directory. -/
  here : Place := []
  /-- What stands where, except at the root, which is a directory. -/
  entries : List (Place × Entry) := []

namespace Files

/-- What stands at a place. -/
def entryAt (files : Files) (place : Place) : Option Entry :=
  if place.isEmpty then some .directory else files.entries.lookup place

/-- Puts something at a place, instead of what stands there. -/
def put (files : Files) (place : Place) (entry : Entry) : Files :=
  match files.entries.lookup place with
  | some _ =>
    { files with
      entries := files.entries.map fun old => if old.1 = place then (place, entry) else old }
  | none => { files with entries := files.entries ++ [(place, entry)] }

/-- Goes from a place by one name. One point stays and two turn back, but not out of the root. -/
def step (files : Files) (place : Place) (name : String) : Except FileError Place :=
  match files.entryAt place with
  | none => .error .notFound
  | some .directory =>
    if name = "." then .ok place
    else if name = ".." then .ok place.dropLast
    else if maxNameBytes < name.utf8ByteSize then .error .tooLong
    else .ok (place ++ [name])
  | some (.file _) => .error .notDirectory

/-- The place that names lead to, where nothing need stand. -/
def follow (files : Files) (absolute : Bool) (steps : List String) : Except FileError Place :=
  steps.foldlM files.step (if absolute then [] else files.here)

/-- What stands where a path leads. -/
def find (files : Files) (name : String) : Except FileError Entry := do
  let path ← Path.ofText name
  let place ← files.follow path.absolute path.steps
  match files.entryAt place with
  | none => .error .notFound
  | some .directory => return .directory
  | some (.file text) => if path.closed then .error .notDirectory else return .file text

/-- Whether there is a file or a directory. -/
def contains (files : Files) (name : String) : Bool :=
  (files.find name).isOk

/-- Reads a file. -/
def read (files : Files) (name : String) : Except FileError String := do
  match ← files.find name with
  | .directory => .error .isDirectory
  | .file text => return text

/-- Writes a file. A new one needs a directory to stand in. A path that ends in a slash is none that a
file could have, whatever stands there. -/
def write (files : Files) (name : String) (text : String) : Except FileError Files := do
  let path ← Path.ofText name
  if path.closed then
    let _ ← files.follow path.absolute (path.steps.dropLast ++ ["."])
    .error .isDirectory
  else
    let place ← files.follow path.absolute path.steps
    match files.entryAt place with
    | some .directory => .error .isDirectory
    | _ => return files.put place (.file text)

/-- Takes a file away. -/
def remove (files : Files) (name : String) : Except FileError Files := do
  let path ← Path.ofText name
  let place ← files.follow path.absolute path.steps
  let _ ← files.read name
  return { files with entries := files.entries.filter fun old => old.1 ≠ place }

/-- The names of the files in the working directory, in order. -/
def names (files : Files) : List String :=
  let here := files.entries.filterMap fun (place, entry) =>
    match entry with
    | .directory => none
    | .file _ => if place.dropLast = files.here then place.getLast? else none
  here.mergeSort fun a b => a ≤ b

end Files

end NameBinding
