/-
This file takes values out of documents that are at hand as such. Here the whole document is known, so
the rules differ a little from those for a text: a choice is a name, or an object with that name as its
only key.
-/

import NameBinding.Json
import NameBinding.Json.ReadError

namespace NameBinding

namespace Json

/-- The document as a thing that was found. -/
def found : Json → Found
  | null => .null
  | bool value => .bool value
  | int value => .int value
  | float negative magnitude => .float negative magnitude
  | str value => .text value
  | arr _ => .list
  | obj _ => .object

/-- The error for a document that is not of the expected type. -/
def mismatch {α : Type} (document : Json) (expected : String) : Except ReadError α :=
  .error (.wrongType document.found expected)

/-- The name of one of several alternatives that have nothing to them. -/
def choiceAmong (names : List String) : Json → Except ReadError String
  | .str name => if names.contains name then .ok name else .error (.unknownChoice name names)
  | .obj [(name, value)] =>
    if names.contains name then
      match value with
      | .null => .ok name
      | value => value.mismatch "unit"
    else .error (.unknownChoice name names)
  | .obj _ => .error .notSingleKey
  | document => document.mismatch "string or map"

/-- A truth value. -/
def truthValue : Json → Except ReadError Bool
  | .bool value => .ok value
  | document => document.mismatch "a boolean"

/-- A natural number that fits a machine word. -/
def machineWord : Json → Except ReadError Nat
  | .int value =>
    if 0 ≤ value ∧ value < Int.pow 2 64 then .ok value.toNat else .error (.outOfRange value "usize")
  | document => document.mismatch "usize"

/-- Nothing for null, and otherwise what is read from the document. -/
def orUnset {α : Type} (read : Json → Except ReadError α) : Json → Except ReadError (Option α)
  | .null => .ok none
  | document => (read document).map some

end Json

end NameBinding
