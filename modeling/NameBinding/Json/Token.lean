/-
This file reads the parts of a document that have no parts themselves: blanks, words, texts in quotes
and numbers. A reader takes the characters that are left and gives what it read together with the
characters after it, and stops at the first error from the left.
-/

import NameBinding.Json.ReadError

namespace NameBinding

/-- Reads something from the front of a text and hands on the rest. -/
abbrev Reader (α : Type) := List Char → Except ReadError (α × List Char)

namespace Reader

/-! ### Blanks and words -/

/-- The four characters that may stand between the parts of a document. -/
def isBlank (c : Char) : Bool :=
  c == ' ' || c == '\t' || c == '\n' || c == '\r'

/-- Leaves out blanks. -/
def skipBlanks (text : List Char) : List Char :=
  text.dropWhile isBlank

/-- Reads the rest of a word. -/
def word : List Char → List Char → Except ReadError (List Char)
  | [], text => .ok text
  | _ :: _, [] => .error (.truncated .value)
  | expected :: rest, c :: text =>
    if c = expected then word rest text else .error .expectedWord

/-! ### Texts in quotes -/

/-- The value of a hexadecimal digit. -/
def hexValue? (c : Char) : Option Nat :=
  if '0' ≤ c ∧ c ≤ '9' then some (c.toNat - '0'.toNat)
  else if 'a' ≤ c ∧ c ≤ 'f' then some (c.toNat - 'a'.toNat + 10)
  else if 'A' ≤ c ∧ c ≤ 'F' then some (c.toNat - 'A'.toNat + 10)
  else none

/-- How many bytes a text takes when it is encoded. -/
def byteCount (text : List Char) : Nat :=
  text.foldl (fun total c => total + c.utf8Size) 0

/-- Reads the number of an escape, four hexadecimal digits. A text with fewer than four bytes left
ends too early, whatever these are. -/
def hexEscape : Reader Nat := fun text =>
  match text with
  | a :: b :: c :: d :: rest =>
    match hexValue? a, hexValue? b, hexValue? c, hexValue? d with
    | some a, some b, some c, some d => .ok (((a * 16 + b) * 16 + c) * 16 + d, rest)
    | _, _, _, _ => .error .invalidEscape
  | _ => if byteCount text < 4 then .error (.truncated .text) else .error .invalidEscape

/-- Whether a number is the first half of a pair of escapes. -/
def isHighSurrogate (n : Nat) : Bool := 0xd800 ≤ n && n ≤ 0xdbff

/-- Whether a number is the second half of a pair of escapes. -/
def isLowSurrogate (n : Nat) : Bool := 0xdc00 ≤ n && n ≤ 0xdfff

/-- The character that a pair of escapes stands for. -/
def ofSurrogates (high low : Nat) : Char :=
  Char.ofNat (0x10000 + (high - 0xd800) * 0x400 + (low - 0xdc00))

/-- Reads the second half of a pair of escapes. -/
def lowEscape (high : Nat) : Reader Char := fun text =>
  match text with
  | [] => .error (.truncated .text)
  | '\\' :: [] => .error (.truncated .text)
  | '\\' :: 'u' :: rest => do
    let (low, rest) ← hexEscape rest
    if isLowSurrogate low then .ok (ofSurrogates high low, rest) else .error .loneSurrogate
  | _ => .error .unpairedEscape

/-- Reads a character given by its number, or by the two numbers of a pair. -/
def numberedChar : Reader Char := fun text => do
  let (n, rest) ← hexEscape text
  if isLowSurrogate n then .error .loneSurrogate
  else if isHighSurrogate n then lowEscape n rest
  else .ok (Char.ofNat n, rest)

/-- The character that a letter after a backslash stands for. -/
def lettered? (c : Char) : Option Char :=
  match c with
  | '"' => some '"'
  | '\\' => some '\\'
  | '/' => some '/'
  | 'b' => some '\x08'
  | 'f' => some '\x0c'
  | 'n' => some '\n'
  | 'r' => some '\r'
  | 't' => some '\t'
  | _ => none

/-- Reads what stands after a backslash. -/
def escaped : Reader Char := fun text =>
  match text with
  | [] => .error (.truncated .text)
  | 'u' :: rest => numberedChar rest
  | c :: rest =>
    match lettered? c with
    | some letter => .ok (letter, rest)
    | none => .error .invalidEscape

/-- Reads one character between quotes. At the closing quote there is none. -/
def quotedUnit : Reader (Option Char) := fun text =>
  match text with
  | [] => .error (.truncated .text)
  | '"' :: rest => .ok (none, rest)
  | '\\' :: rest => do
    let (c, rest) ← escaped rest
    .ok (some c, rest)
  | c :: rest => if c.toNat < 0x20 then .error .controlCharacter else .ok (some c, rest)

/-- Reads characters up to the closing quote, at most as many as the first list has items. -/
def quotedUnits : List Char → Reader (List Char)
  | [], _ => .error (.truncated .text)
  | _ :: bound, text => do
    match ← quotedUnit text with
    | (none, rest) => .ok ([], rest)
    | (some c, rest) =>
      let (more, rest) ← quotedUnits bound rest
      .ok (c :: more, rest)

/-- Reads a text after its opening quote. Every character and the closing quote take something of
what is left, so what is left is long enough to count them. -/
def quoted : Reader String := fun text => do
  let (chars, rest) ← quotedUnits text text
  .ok (String.ofList chars, rest)

/-! ### Numbers -/

/-- A number as it is written: its sign, its digits before and after the point, and its exponent. -/
structure Numeral where
  negative : Bool
  whole : List Char
  fraction : Option (List Char)
  exponent : Option (Bool × List Char)
deriving DecidableEq

/-- Whether a character is a decimal digit. -/
def isDigit (c : Char) : Bool := '0' ≤ c && c ≤ '9'

/-- The digits at the front of a text, and the rest. -/
def digits (text : List Char) : List Char × List Char :=
  (text.takeWhile isDigit, text.dropWhile isDigit)

/-- Reads digits where there must be one. At the end of the text the first error is given. -/
def someDigits (atEnd : ReadError) : Reader (List Char) := fun text =>
  match text with
  | [] => .error atEnd
  | c :: _ => if isDigit c then .ok (digits text) else .error .invalidNumber

/-- Reads the digits before the point. A leading zero is the only one of them. -/
def wholeDigits (atEnd : ReadError) : Reader (List Char) := fun text =>
  match text with
  | '0' :: c :: rest => if isDigit c then .error .invalidNumber else .ok (['0'], c :: rest)
  | _ => someDigits atEnd text

/-- Reads the point and the digits after it, if there is a point. -/
def fractionDigits (atEnd : ReadError) : Reader (Option (List Char)) := fun text =>
  match text with
  | '.' :: rest => do
    let (fraction, rest) ← someDigits atEnd rest
    .ok (some fraction, rest)
  | _ => .ok (none, text)

/-- Reads the sign of an exponent, and says whether it is negative. -/
def exponentSign (text : List Char) : Bool × List Char :=
  match text with
  | '+' :: rest => (false, rest)
  | '-' :: rest => (true, rest)
  | _ => (false, text)

/-- Reads an exponent, if there is one. -/
def exponentDigits (atEnd : ReadError) : Reader (Option (Bool × List Char)) := fun text =>
  match text with
  | [] => .ok (none, text)
  | c :: rest =>
    if c = 'e' ∨ c = 'E' then do
      let (negative, rest) := exponentSign rest
      let (exponent, rest) ← someDigits atEnd rest
      .ok (some (negative, exponent), rest)
    else .ok (none, text)

/-- Reads a number. -/
def numeral (atEnd : ReadError) : Reader Numeral := fun text => do
  let (negative, rest) := match text with
    | '-' :: rest => (true, rest)
    | _ => (false, text)
  let (whole, rest) ← wholeDigits atEnd rest
  let (fraction, rest) ← fractionDigits atEnd rest
  let (exponent, rest) ← exponentDigits atEnd rest
  .ok (⟨negative, whole, fraction, exponent⟩, rest)

end Reader

end NameBinding
