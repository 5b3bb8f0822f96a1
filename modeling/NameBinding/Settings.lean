/-
This file defines the settings of the command line and the file they are kept in. Each setting may be
unset and then has a fixed value. A settings file is a document in the TOML notation; members of it
that are no settings are passed over. Writing is refused where a file stands in the way, and when a
number is too great for the notation; nothing is written then.
-/

import NameBinding.Files
import NameBinding.Json.Value
import NameBinding.Toml.Reader

namespace NameBinding

/-- For whom results are written. -/
inductive OutputFormat
  | human
  | json
deriving DecidableEq

namespace OutputFormat

/-- The name of a format. -/
def text : OutputFormat → String
  | human => "human"
  | json => "json"

/-- The names of the formats. -/
def names : List String := [human.text, json.text]

/-- The format with a name. -/
def ofText? (name : String) : Option OutputFormat :=
  [human, json].find? fun format => format.text == name

end OutputFormat

/-- Settings, each of which may be unset. -/
structure Settings where
  indent : Option Nat := none
  format : Option OutputFormat := none
  annotate : Option Bool := none
deriving DecidableEq

namespace Settings

/-- The settings that a new file begins with. -/
def starter : Settings :=
  { indent := some 4, format := some .human, annotate := some false }

/-- The blanks of one level of source text. -/
def effectiveIndent (settings : Settings) : Nat := settings.indent.getD 4

/-- The format of results. -/
def effectiveFormat (settings : Settings) : OutputFormat := settings.format.getD .human

/-- Whether source text is shown with its names bound. -/
def effectiveAnnotate (settings : Settings) : Bool := settings.annotate.getD false

/-! ### The text of a settings file -/

/-- One line of a settings file, if the setting is set. -/
def lineOf (key : String) : Option String → String
  | none => ""
  | some value => key ++ " = " ++ value ++ "\n"

/-- The greatest number of the notation, that of a machine word with a sign. -/
def maxNumber : Nat := Nat.pow 2 63 - 1

/-- The text of a settings file, if the indent can be written. -/
def text? (settings : Settings) : Option String :=
  if settings.indent.all (· ≤ maxNumber) then
    some (lineOf "indent" (settings.indent.map Nat.repr) ++
      lineOf "format" (settings.format.map fun format => "\"" ++ format.text ++ "\"") ++
      lineOf "annotate" (settings.annotate.map fun annotate =>
        if annotate then "true" else "false"))
  else none

/-- The indent that a value stands for. -/
def indentOf? : Toml.Value → Option Nat
  | .int value => if 0 ≤ value then some value.toNat else none
  | _ => none

/-- Whether a value has nothing in it. -/
def isEmptyValue : Toml.Value → Bool
  | .list items => items.isEmpty
  | .table _ members => members.isEmpty
  | .tables items => items.isEmpty
  | _ => false

/-- The format that a value stands for: its name, or a table with the name as its only key and
nothing under it. -/
def formatOf? : Toml.Value → Option OutputFormat
  | .text name => OutputFormat.ofText? name
  | .table _ [(name, value)] => if isEmptyValue value then OutputFormat.ofText? name else none
  | _ => none

/-- The truth value that a value stands for. -/
def annotateOf? : Toml.Value → Option Bool
  | .bool value => some value
  | _ => none

/-- The setting under a key. A value of the wrong sort makes the whole file invalid. -/
def setting? {α : Type} (read : Toml.Value → Option α) (key : String) (members : Toml.Members) :
    Option (Option α) :=
  match members.lookup key with
  | none => some none
  | some value => (read value).map some

/-- The settings in the text of a settings file. -/
def ofText? (text : String) : Option Settings := do
  let members ← Toml.parse text
  return {
    indent := ← setting? indentOf? "indent" members
    format := ← setting? formatOf? "format" members
    annotate := ← setting? annotateOf? "annotate" members }

end Settings

/-! ### Settings files -/

/-- Why settings cannot be loaded or written. -/
inductive SettingsError
  /-- The file that was asked for is not there. -/
  | missing (name : String)
  /-- The file is no settings file. -/
  | invalid (name : String)
  /-- There is a file already. -/
  | present (name : String)
  /-- A number is too great to be written. -/
  | unwritable
  /-- The file cannot be read or written. -/
  | file (reason : FileError)
deriving DecidableEq

namespace SettingsError

/-- The wording of a failure. -/
def message : SettingsError → String
  | missing name => "config file " ++ name ++ " not found (given with --config)"
  | invalid name => "invalid config in " ++ name
  | present name => "config already exists at " ++ name ++ " (use --force to overwrite)"
  | unwritable => "out-of-range value for u64 type"
  | file reason => reason.message

end SettingsError

namespace Settings

/-- The file that is read if none is asked for. -/
def defaultName : String := "bach.toml"

/-- Reads a settings file. -/
def read (files : Files) (name : String) : Except SettingsError Settings :=
  match files.read name with
  | .error reason => .error (.file reason)
  | .ok text =>
    match ofText? text with
    | some settings => .ok settings
    | none => .error (.invalid name)

/-- Loads the settings of a file that was asked for, which has to be there, or those of the default
file, which has not. -/
def load (files : Files) (name : Option String) : Except SettingsError (Option Settings) :=
  match name with
  | some name =>
    if files.contains name then (read files name).map some else .error (.missing name)
  | none => if files.contains defaultName then (read files defaultName).map some else .ok none

/-- Writes a settings file, over another one only if that is asked for. -/
def write (files : Files) (name : String) (settings : Settings) (force : Bool) :
    Except SettingsError Files :=
  if files.contains name ∧ force = false then .error (.present name)
  else
    match settings.text? with
    | none => .error .unwritable
    | some text =>
      match files.write name text with
      | .ok files => .ok files
      | .error reason => .error (.file reason)

/-! ### Settings as a document -/

/-- The words for settings in messages. -/
def title : String := "struct BachConfig"

/-- The format that a document stands for. -/
def formatOfJson (document : Json) : Except ReadError OutputFormat := do
  let name ← document.choiceAmong OutputFormat.names
  return (OutputFormat.ofText? name).getD .human

/-- The settings of a document: an object, whose members are looked at in the order of their keys, or
a list of all three. -/
def ofJson : Json → Except ReadError Settings
  | .obj members => do
    let member (key : String) : Json := (members.lookup key).getD .null
    let annotate ← (member "annotate").orUnset Json.truthValue
    let format ← (member "format").orUnset formatOfJson
    let indent ← (member "indent").orUnset Json.machineWord
    return { indent, format, annotate }
  | .arr items => do
    let item (index : Nat) : Except ReadError Json :=
      match items[index]? with
      | some item => .ok item
      | none => .error (.tooShort index (title ++ " with 3 elements"))
    let indent ← (← item 0).orUnset Json.machineWord
    let format ← (← item 1).orUnset formatOfJson
    let annotate ← (← item 2).orUnset Json.truthValue
    if items.length = 3 then return { indent, format, annotate }
    else .error (.tooLong items.length)
  | document => document.mismatch title

end Settings

end NameBinding
