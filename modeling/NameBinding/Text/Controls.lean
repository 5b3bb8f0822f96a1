/-
This file shows characters by their numbers, where a text must not get hold of the terminal that it is
written to. The characters that can steer a terminal are the escape, the bell, the backspace, the form
feed, the delete, and the second block of controls. A line break and a tabulator stay what they are.
-/

namespace NameBinding

/-- The number of a character in braces, after a backslash. -/
def numberInBraces (c : Char) : List Char :=
  ['\\', 'u', '\x7b'] ++ Nat.toDigits 16 c.toNat ++ ['\x7d']

/-- The number of a character below 256 in two digits, after a backslash. -/
def numberInTwoDigits (c : Char) : List Char :=
  ['\\', 'x', (c.toNat / 16).digitChar, (c.toNat % 16).digitChar]

/-- A character as it is written to a terminal. -/
def harmlessChar (c : Char) : List Char :=
  if c = '\x07' ∨ c = '\x08' ∨ c = '\x0c' ∨ c = '\x1b' ∨ c = '\x7f' then numberInTwoDigits c
  else if 0x80 ≤ c.toNat ∧ c.toNat ≤ 0x9f then numberInBraces c
  else [c]

/-- A text as it is written to a terminal. -/
def harmless (text : String) : String :=
  String.ofList (text.toList.flatMap harmlessChar)

end NameBinding
