/-
This file defines documents and the way they are written. A document is a value of the JSON data
model, with whole numbers apart from floating ones. The members of an object stand in a fixed order,
which is kept. The compact form has no blanks at all; the open form puts every item and every member
on a line of its own and indents it by two blanks for each level.
-/

import NameBinding.Decimal.Shortest

namespace NameBinding

/-- A document. -/
inductive Json
  | null
  | bool (value : Bool)
  | int (value : Int)
  | float (negative : Bool) (magnitude : Binary64)
  | str (value : String)
  | arr (items : List Json)
  | obj (members : List (String × Json))

namespace Json

/-- A document for a natural number. -/
def ofNat (n : Nat) : Json := .int n

/-! ### Texts in quotes -/

/-- How one character of a text is written between quotes. Quotes, backslashes and controls are
escaped, and every other character stands for itself. -/
def escape (c : Char) : List Char :=
  match c with
  | '"' => ['\\', '"']
  | '\\' => ['\\', '\\']
  | '\x08' => ['\\', 'b']
  | '\t' => ['\\', 't']
  | '\n' => ['\\', 'n']
  | '\x0c' => ['\\', 'f']
  | '\r' => ['\\', 'r']
  | _ =>
    if c.toNat < 0x20 then
      ['\\', 'u', '0', '0', Nat.digitChar (c.toNat / 16), Nat.digitChar (c.toNat % 16)]
    else [c]

/-- A text in quotes. -/
def quote (text : String) : List Char :=
  '"' :: text.toList.flatMap escape ++ ['"']

/-- The digits of a number, with a sign if it is negative. -/
def digits : Int → List Char
  | .ofNat n => Nat.toDigits 10 n
  | .negSucc n => '-' :: Nat.toDigits 10 (n + 1)

/-! ### The compact form -/

mutual

/-- The compact form of a document. -/
def compact : Json → List Char
  | .null => "null".toList
  | .bool true => "true".toList
  | .bool false => "false".toList
  | .int value => digits value
  | .float negative magnitude => (magnitude.text Binary64.plainStyle negative).toList
  | .str value => quote value
  | .arr items => '[' :: compactItems items ++ [']']
  | .obj members => '\x7b' :: compactMembers members ++ ['\x7d']

/-- The compact form of items, with commas between them. -/
def compactItems : List Json → List Char
  | [] => []
  | [item] => compact item
  | item :: next :: rest => compact item ++ ',' :: compactItems (next :: rest)

/-- The compact form of members, with commas between them. -/
def compactMembers : List (String × Json) → List Char
  | [] => []
  | [(key, value)] => quote key ++ ':' :: compact value
  | (key, value) :: next :: rest =>
    quote key ++ ':' :: compact value ++ ',' :: compactMembers (next :: rest)

end

/-- The compact form of a document, as a text. -/
def text (document : Json) : String :=
  String.ofList document.compact

/-! ### The open form -/

/-- A line break and the blanks of a level. -/
def lineBreak (level : Nat) : List Char :=
  '\n' :: List.replicate (2 * level) ' '

mutual

/-- The open form of a document that begins on a line of this level. -/
def spread (level : Nat) : Json → List Char
  | .arr (item :: rest) =>
    '[' :: spreadItems (level + 1) (item :: rest) ++ lineBreak level ++ [']']
  | .obj (member :: rest) =>
    '\x7b' :: spreadMembers (level + 1) (member :: rest) ++ lineBreak level ++ ['\x7d']
  | .arr [] => ['[', ']']
  | .obj [] => ['\x7b', '\x7d']
  | .null => "null".toList
  | .bool true => "true".toList
  | .bool false => "false".toList
  | .int value => digits value
  | .float negative magnitude => (magnitude.text Binary64.plainStyle negative).toList
  | .str value => quote value

/-- The open form of items, each on a line of this level. -/
def spreadItems (level : Nat) : List Json → List Char
  | [] => []
  | [item] => lineBreak level ++ spread level item
  | item :: next :: rest =>
    lineBreak level ++ spread level item ++ ',' :: spreadItems level (next :: rest)

/-- The open form of members, each on a line of this level. -/
def spreadMembers (level : Nat) : List (String × Json) → List Char
  | [] => []
  | [(key, value)] => lineBreak level ++ quote key ++ ':' :: ' ' :: spread level value
  | (key, value) :: next :: rest =>
    lineBreak level ++ quote key ++ ':' :: ' ' :: spread level value ++
      ',' :: spreadMembers level (next :: rest)

end

/-- The open form of a document, as a text. -/
def pretty (document : Json) : String :=
  String.ofList (document.spread 0)

/-! ### Depth -/

mutual

/-- How many objects and arrays stand inside one another. -/
def depth : Json → Nat
  | .arr items => depthOfItems items + 1
  | .obj members => depthOfMembers members + 1
  | _ => 0

/-- The greatest depth among items. -/
def depthOfItems : List Json → Nat
  | [] => 0
  | item :: rest => max (depth item) (depthOfItems rest)

/-- The greatest depth among the values of members. -/
def depthOfMembers : List (String × Json) → Nat
  | [] => 0
  | (_, value) :: rest => max (depth value) (depthOfMembers rest)

end

end Json

end NameBinding
