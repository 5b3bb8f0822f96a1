/-
This file reads documents by their form. The text is read once from left to right and the first error
ends it. A record is written as an object, with its members in any order and others among them that
are passed over, or as a list of its members in order, where those that may be missing may be left out
at the end. An alternative is written as its name, or as an object with the name as its only key. What
is read is always put into one shape: members in order, missing ones filled in, and alternatives
without anything to them as names. Objects and lists can stand inside one another to a limited depth.
-/

import NameBinding.Json.Number
import NameBinding.Json.Skip
import NameBinding.Tree.Form

namespace NameBinding

namespace Reader

/-! ### Values of the wrong type -/

/-- The error for a value that is not of the expected type. The value is read as far as is needed to
name it, and an error in it comes first. -/
def wrongType {α : Type} (expected : String) : Reader α := fun text =>
  match text with
  | [] => .error (.truncated .value)
  | 'n' :: rest => do
    let _ ← word ['u', 'l', 'l'] rest
    .error (.wrongType .null expected)
  | 't' :: rest => do
    let _ ← word ['r', 'u', 'e'] rest
    .error (.wrongType (.bool true) expected)
  | 'f' :: rest => do
    let _ ← word ['a', 'l', 's', 'e'] rest
    .error (.wrongType (.bool false) expected)
  | '"' :: rest => do
    let (value, _) ← quoted rest
    .error (.wrongType (.text value) expected)
  | '[' :: _ => .error (.wrongType .list expected)
  | '\x7b' :: _ => .error (.wrongType .object expected)
  | c :: rest =>
    if c = '-' ∨ isDigit c then do
      let (value, _) ← number (c :: rest)
      .error (.wrongType value.found expected)
    else .error .expectedValue

/-- Reads a text. -/
def text : Reader String := fun input =>
  match skipBlanks input with
  | '"' :: rest => quoted rest
  | input => wrongType "a string" input

/-- Reads a whole number between two bounds. -/
def integer (low high : Int) (expected : String) : Reader Int := fun input =>
  match skipBlanks input with
  | [] => .error (.truncated .value)
  | c :: rest =>
    if c = '-' ∨ isDigit c then do
      match ← number (c :: rest) with
      | (.whole value, rest) =>
        if low ≤ value ∧ value ≤ high then .ok (value, rest)
        else .error (.outOfRange value expected)
      | (.float negative magnitude, _) =>
        .error (.wrongType (.float negative magnitude) expected)
    else wrongType expected (c :: rest)

/-- Reads null. -/
def null : Reader Json := fun input =>
  match skipBlanks input with
  | 'n' :: rest => do
    let rest ← word ['u', 'l', 'l'] rest
    .ok (.null, rest)
  | input => wrongType "unit" input

/-- Reads null, or what another reader reads. -/
def orNull (value : Reader Json) : Reader Json := fun input =>
  match skipBlanks input with
  | 'n' :: rest => do
    let rest ← word ['u', 'l', 'l'] rest
    .ok (.null, rest)
  | input => value input

/-! ### Lists -/

/-- What comes next in a list. -/
inductive ListStep
  /-- An item begins at this text. -/
  | item (text : List Char)
  /-- The list ends before this text. -/
  | done (rest : List Char)

/-- Looks for the next item of a list, after a comma unless it is the first. -/
def listStep (first : Bool) (text : List Char) : Except ReadError ListStep :=
  match skipBlanks text with
  | [] => .error (.truncated .list)
  | ']' :: rest => .ok (.done rest)
  | c :: rest =>
    if first then .ok (.item (c :: rest))
    else if c = ',' then
      match skipBlanks rest with
      | [] => .error (.truncated .value)
      | ']' :: _ => .error .trailingComma
      | rest => .ok (.item rest)
    else .error .expectedListEnd

/-- Reads items up to the end of a list, at most as many as the first list has items. -/
def items (item : Reader Json) : List Char → Bool → Reader (List Json)
  | [], _, _ => .error (.truncated .list)
  | _ :: bound, first, text => do
    match ← listStep first text with
    | .done rest => .ok ([], rest)
    | .item text =>
      let (value, rest) ← item text
      let (values, rest) ← items item bound false rest
      .ok (value :: values, rest)

/-! ### Records -/

/-- The value of a member that is missing. -/
def absent (key : String) : Absence → Except ReadError (Option Json)
  | .refused => .error (.missingMember key)
  | .filled value => .ok (some value)
  | .allowed => .ok none

/-- Puts the members of a record in order and fills in those that are missing. -/
def assemble (found : List (String × Json)) : List Member → Except ReadError (List (String × Json))
  | [] => .ok []
  | member :: rest => do
    let value ← match found.lookup member.key, member.absence with
      | some .null, .allowed => .ok none
      | some value, _ => .ok (some value)
      | none, absence => absent member.key absence
    let others ← assemble found rest
    match value with
    | some value => .ok ((member.key, value) :: others)
    | none => .ok others

/-- Reads the value of a member. -/
def memberValue (inside : Form → Reader Json) (member : Member) : Reader Json :=
  match member.absence with
  | .allowed => orNull (inside member.form)
  | _ => inside member.form

/-- What comes next in an object. -/
inductive ObjectStep
  /-- A key begins before this text, after its opening quote. -/
  | key (text : List Char)
  /-- The object ends before this text. -/
  | done (rest : List Char)

/-- Looks for the next key of an object, after a comma unless it is the first. -/
def objectStep (first : Bool) (text : List Char) : Except ReadError ObjectStep :=
  match skipBlanks text with
  | [] => .error (.truncated .object)
  | '\x7d' :: rest => .ok (.done rest)
  | '"' :: rest => if first then .ok (.key rest) else .error .expectedObjectEnd
  | ',' :: rest =>
    if first then .error .expectedKey
    else
      match skipBlanks rest with
      | [] => .error (.truncated .value)
      | '"' :: rest => .ok (.key rest)
      | '\x7d' :: _ => .error .trailingComma
      | _ => .error .expectedKey
  | _ => .error (if first then .expectedKey else .expectedObjectEnd)

/-- Reads the colon after a key. -/
def colon (text : List Char) : Except ReadError (List Char) :=
  match skipBlanks text with
  | [] => .error (.truncated .object)
  | ':' :: rest => .ok rest
  | _ => .error .expectedColon

/-- Reads members up to the end of an object, at most as many as the first list has items. Gives those
that belong to the record, in the order in which they were read. -/
def membersOfObject (inside : Form → Reader Json) (members : List Member) :
    List Char → Bool → List (String × Json) → Reader (List (String × Json))
  | [], _, _, _ => .error (.truncated .object)
  | _ :: bound, first, found, text => do
    match ← objectStep first text with
    | .done rest => .ok (found, rest)
    | .key text =>
      let (key, rest) ← quoted text
      match members.find? fun member => member.key == key with
      | none =>
        let rest ← colon rest
        let rest ← skip rest
        membersOfObject inside members bound false found rest
      | some member =>
        match found.lookup key with
        | some _ => .error (.duplicateMember key)
        | none =>
          let rest ← colon rest
          let (value, rest) ← memberValue inside member rest
          membersOfObject inside members bound false (found ++ [(key, value)]) rest

/-- The members that are left when a list ends before them. -/
def membersLeft (expected : String) (count : Nat) :
    List Member → Except ReadError (List (String × Json))
  | [] => .ok []
  | member :: rest =>
    match member.absence with
    | .refused => .error (.tooShort count expected)
    | .filled value => do
      let others ← membersLeft expected (count + 1) rest
      .ok ((member.key, value) :: others)
    | .allowed => membersLeft expected (count + 1) rest

/-- Reads the end of a list that has an item for every member. -/
def listEnd (text : List Char) : Except ReadError (List Char) :=
  match skipBlanks text with
  | [] => .error (.truncated .list)
  | ']' :: rest => .ok rest
  | ',' :: rest =>
    match skipBlanks rest with
    | ']' :: _ => .error .trailingComma
    | _ => .error .trailingCharacters
  | _ => .error .trailingCharacters

/-- Reads the members of a record from a list, in order. -/
def membersOfList (inside : Form → Reader Json) (expected : String) :
    Nat → List Member → Reader (List (String × Json))
  | _, [], text => do
    let rest ← listEnd text
    .ok ([], rest)
  | count, member :: others, text => do
    match ← listStep (count == 0) text with
    | .done rest =>
      let values ← membersLeft expected count (member :: others)
      .ok (values, rest)
    | .item text =>
      let (value, rest) ← memberValue inside member text
      let (values, rest) ← membersOfList inside expected (count + 1) others rest
      match value, member.absence with
      | .null, .allowed => .ok (values, rest)
      | _, _ => .ok ((member.key, value) :: values, rest)

/-- A reader for what stands one level further inside, as long as there is a level left. -/
abbrev Inside := Option (Form → Reader Json)

/-- Reads a record. -/
def record (inside : Inside) (form : RecordForm) : Reader Json := fun input =>
  match skipBlanks input, inside with
  | '\x7b' :: _, none => .error .tooDeep
  | '[' :: _, none => .error .tooDeep
  | '\x7b' :: text, some inside => do
    let (found, rest) ← membersOfObject inside form.members text true [] text
    let members ← assemble found form.members
    .ok (.obj members, rest)
  | '[' :: text, some inside => do
    let (members, rest) ← membersOfList inside form.titleWithCount 0 form.members text
    .ok (.obj members, rest)
  | input, _ => wrongType form.title input

/-! ### Choices -/

/-- The error for the name of an alternative that needs a value. -/
def bareName (name : String) : Payload → Except ReadError Json
  | .none => .ok (.str name)
  | .members _ => .error (.wrongType .bareChoice "struct variant")
  | _ => .error (.wrongType .bareChoice "newtype variant")

/-- Reads what belongs to the name of an alternative, and gives the document of both. -/
def payload (inside : Form → Reader Json) (name : String) (payload : Payload) : Reader Json :=
  fun text =>
    match payload with
    | .none => do
      let (_, rest) ← null text
      .ok (.str name, rest)
    | .value form => do
      let (value, rest) ← inside form text
      .ok (.obj [(name, value)], rest)
    | .optional form => do
      let (value, rest) ← orNull (inside form) text
      .ok (.obj [(name, value)], rest)
    | .members form => do
      let (value, rest) ← inside (.record form) text
      .ok (.obj [(name, value)], rest)

/-- The alternative with a name, if it is known. -/
def alternative (form : ChoiceForm) (name : String) : Except ReadError Alternative :=
  match form.find? name with
  | some alternative => .ok alternative
  | none => .error (.unknownChoice name form.names)

/-- Reads a choice. Its name is a text, or the key of an object with one member. The key has to be a
text as in any object, and a document that ends behind the brace is cut short within the object. -/
def choice (inside : Inside) (form : ChoiceForm) : Reader Json := fun input =>
  match skipBlanks input, inside with
  | [], _ => .error (.truncated .value)
  | '"' :: text, _ => do
    let (name, rest) ← quoted text
    let chosen ← alternative form name
    let value ← bareName name chosen.payload
    .ok (value, rest)
  | '\x7b' :: _, none => .error .tooDeep
  | '\x7b' :: text, some inside =>
    match skipBlanks text with
    | [] => .error (.truncated .object)
    | '\x7d' :: _ => .error .expectedValue
    | '"' :: text => do
      let (name, rest) ← quoted text
      let chosen ← alternative form name
      let rest ← colon rest
      let (value, rest) ← payload inside name chosen.payload rest
      match skipBlanks rest with
      | [] => .error (.truncated .object)
      | '\x7d' :: rest => .ok (value, rest)
      | _ => .error .expectedValue
    | _ => .error .expectedKey
  | _, _ => .error .expectedValue

/-! ### All forms -/

/-- Reads a value of a form, given a reader for what stands one level further inside. -/
def ofForm (inside : Inside) : Form → Reader Json
  | .text => fun input => do
    let (value, rest) ← text input
    .ok (.str value, rest)
  | .int32 => fun input => do
    let (value, rest) ← integer (-Int.pow 2 31) (Int.pow 2 31 - 1) "i32" input
    .ok (.int value, rest)
  | .uint32 => fun input => do
    let (value, rest) ← integer 0 (Int.pow 2 32 - 1) "u32" input
    .ok (.int value, rest)
  | .list item => fun input =>
    match skipBlanks input, inside with
    | '[' :: _, none => .error .tooDeep
    | '[' :: text, some inside => do
      let (values, rest) ← items (inside item) text true text
      .ok (.arr values, rest)
    | input, _ => wrongType "a sequence" input
  | .record form => record inside form
  | .choice form => choice inside form

/-- Reads a value of a form in which objects and lists stand inside one another at most so deep. -/
def within : Nat → Form → Reader Json
  | 0 => ofForm none
  | levels + 1 => ofForm (some (within levels))

/-- How deep objects and lists of a document may stand inside one another. -/
def maxDepth : Nat := 127

/-- Reads a whole text as a value of a form. Only blanks may follow the value. -/
def document (form : Form) (text : String) : Except ReadError Json := do
  let (value, rest) ← within maxDepth form text.toList
  match skipBlanks rest with
  | [] => .ok value
  | _ => .error .trailingCharacters

end Reader

end NameBinding
