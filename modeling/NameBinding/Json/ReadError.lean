/-
This file defines what can be wrong with the text of a document. A text can end too early, it can
break the rules of the notation, or it can be a document of the wrong shape; these are the three
categories. Each error is a cause, and its wording is found in one place.
-/

import NameBinding.Decimal.Shortest
import NameBinding.Text.Quoted

namespace NameBinding

/-- The thing in the middle of which a text ended. -/
inductive Unfinished
  | value
  | list
  | object
  | text
deriving DecidableEq

/-- A value that was found where another was expected. -/
inductive Found
  | null
  | bool (value : Bool)
  | int (value : Int)
  | float (negative : Bool) (magnitude : Binary64)
  | text (value : String)
  | list
  | object
  /-- The name of a choice without the value that belongs to it. -/
  | bareChoice
deriving DecidableEq

/-- What is wrong with a text. -/
inductive ReadError
  /-- The text ends in the middle of something. -/
  | truncated (inside : Unfinished)
  /-- There is no value where one must be. -/
  | expectedValue
  /-- A word begins like one of the three that are values, and is none of them. -/
  | expectedWord
  /-- There is no colon after a key. -/
  | expectedColon
  /-- After an item of a list stands neither a comma nor the end. -/
  | expectedListEnd
  /-- After a member of an object stands neither a comma nor the end. -/
  | expectedObjectEnd
  /-- A key is not in quotes. -/
  | expectedKey
  /-- A comma stands before the end. -/
  | trailingComma
  /-- Something stands where the text or a list must be at its end. -/
  | trailingCharacters
  /-- A number lacks a digit or begins with a zero too many. -/
  | invalidNumber
  /-- A number is too great for its format. -/
  | numberOutOfRange
  /-- A backslash is followed by nothing that it may be followed by. -/
  | invalidEscape
  /-- A control stands between quotes. -/
  | controlCharacter
  /-- The second half of a pair of escapes is missing. -/
  | unpairedEscape
  /-- Half a pair of escapes stands where a character must be. -/
  | loneSurrogate
  /-- Lists and objects stand too deep inside one another. -/
  | tooDeep
  /-- A value has the wrong type. -/
  | wrongType (found : Found) (expected : String)
  /-- A number is not one of its type. -/
  | outOfRange (value : Int) (expected : String)
  /-- An object is not one with a single key. -/
  | notSingleKey
  /-- The name of a choice is unknown. -/
  | unknownChoice (name : String) (known : List String)
  /-- A member that must be there is missing. -/
  | missingMember (key : String)
  /-- A member is there twice. -/
  | duplicateMember (key : String)
  /-- A list is too short to stand for an object. -/
  | tooShort (length : Nat) (expected : String)
  /-- A list is too long to stand for an object. -/
  | tooLong (length : Nat)
deriving DecidableEq

/-- The three sorts of read errors. -/
inductive ReadError.Category
  /-- The text ends too early. -/
  | truncated
  /-- The text is no document. -/
  | malformed
  /-- The text is a document of the wrong shape. -/
  | mismatched
deriving DecidableEq

namespace Unfinished

/-- The words for what was unfinished. -/
def describe : Unfinished → String
  | value => "a value"
  | list => "a list"
  | object => "an object"
  | text => "a string"

end Unfinished

namespace Found

/-- The words for a value that was found. -/
def describe : Found → String
  | null => "null"
  | bool true => "boolean `true`"
  | bool false => "boolean `false`"
  | int value => "integer `" ++ value.repr ++ "`"
  | float negative magnitude =>
    "floating point `" ++ magnitude.text Binary64.plainStyle negative ++ "`"
  | text value => "string " ++ quotedText value
  | list => "sequence"
  | object => "map"
  | bareChoice => "unit variant"

end Found

namespace ReadError

/-- The known names of a choice. Two are joined by a word, more are listed. -/
def oneOf (known : List String) : String :=
  let quoted := known.map fun name => "`" ++ name ++ "`"
  match quoted with
  | [] => "there are no variants"
  | [only] => "expected " ++ only
  | [first, second] => "expected " ++ first ++ " or " ++ second
  | _ => "expected one of " ++ String.intercalate ", " quoted

/-- The wording of an error. -/
def message : ReadError → String
  | truncated inside => "EOF while parsing " ++ inside.describe
  | expectedValue => "expected value"
  | expectedWord => "expected ident"
  | expectedColon => "expected `:`"
  | expectedListEnd => "expected `,` or `]`"
  | expectedObjectEnd => "expected `,` or `\x7d`"
  | expectedKey => "key must be a string"
  | trailingComma => "trailing comma"
  | trailingCharacters => "trailing characters"
  | invalidNumber => "invalid number"
  | numberOutOfRange => "number out of range"
  | invalidEscape => "invalid escape"
  | controlCharacter => "control character (\\u0000-\\u001F) found while parsing a string"
  | unpairedEscape => "unexpected end of hex escape"
  | loneSurrogate => "lone leading surrogate in hex escape"
  | tooDeep => "recursion limit exceeded"
  | wrongType found expected => "invalid type: " ++ found.describe ++ ", expected " ++ expected
  | outOfRange value expected =>
    "invalid value: integer `" ++ value.repr ++ "`, expected " ++ expected
  | notSingleKey => "invalid value: map, expected map with a single key"
  | unknownChoice name known => "unknown variant `" ++ name ++ "`, " ++ oneOf known
  | missingMember key => "missing field `" ++ key ++ "`"
  | duplicateMember key => "duplicate field `" ++ key ++ "`"
  | tooShort length expected => "invalid length " ++ length.repr ++ ", expected " ++ expected
  | tooLong length =>
    "invalid length " ++ length.repr ++ ", expected fewer elements in array"

/-- The category of an error. -/
def category : ReadError → Category
  | truncated _ => .truncated
  | wrongType _ _ => .mismatched
  | outOfRange _ _ => .mismatched
  | notSingleKey => .mismatched
  | unknownChoice _ _ => .mismatched
  | missingMember _ => .mismatched
  | duplicateMember _ => .mismatched
  | tooShort _ _ => .mismatched
  | tooLong _ => .mismatched
  | _ => .malformed

end ReadError

end NameBinding
