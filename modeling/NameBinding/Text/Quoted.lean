/-
This file shows a text in quotes so that a reader of a message sees exactly what it is. Quotes and
backslashes get a backslash before them, a few controls have a letter, and every other character
without a picture of its own is shown by its number in braces.
-/

import NameBinding.Text.Controls
import NameBinding.Text.Unprintable

namespace NameBinding

/-- How one character is shown inside quotes. -/
def quotedChar (c : Char) : List Char :=
  match c with
  | '"' => ['\\', '"']
  | '\\' => ['\\', '\\']
  | '\x00' => ['\\', '0']
  | '\t' => ['\\', 't']
  | '\n' => ['\\', 'n']
  | '\r' => ['\\', 'r']
  | _ =>
    if isUnprintable c then numberInBraces c else [c]

/-- A text in quotes. -/
def quotedText (text : String) : String :=
  "\"" ++ String.ofList (text.toList.flatMap quotedChar) ++ "\""

end NameBinding
