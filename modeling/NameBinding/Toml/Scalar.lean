/-
This file reads the parts of a settings document that have no parts themselves: blanks, comments,
keys, texts, numbers and moments in time. A part that breaks the rules of the notation is not there at
all, since nothing more is ever said about such a document.
-/

import NameBinding.Decimal.Binary64
import NameBinding.Toml

namespace NameBinding

namespace Toml

/-- Reads something from the front of a text, if it is there, and hands on the rest. -/
abbrev Scan (α : Type) := List Char → Option (α × List Char)

/-! ### Blanks, line ends and comments -/

/-- A blank or a tabulator. -/
def isBlank (c : Char) : Bool := c == ' ' || c == '\t'

/-- Leaves out blanks. -/
def skipBlanks (text : List Char) : List Char := text.dropWhile isBlank

/-- A character beyond ASCII. -/
def isBeyondAscii (c : Char) : Bool := 0x80 ≤ c.toNat

/-- A character that may stand in a comment. -/
def isCommentChar (c : Char) : Bool :=
  c == '\t' || (0x20 ≤ c.toNat && c.toNat ≤ 0x7e) || isBeyondAscii c

/-- Leaves out a comment, if there is one. -/
def skipComment : List Char → List Char
  | '#' :: rest => rest.dropWhile isCommentChar
  | text => text

/-- Reads the end of a line. -/
def lineEnd? : List Char → Option (List Char)
  | '\n' :: rest => some rest
  | '\r' :: '\n' :: rest => some rest
  | _ => none

/-- Reads what may stand after the last part of a line. The last line needs no end. -/
def restOfLine? (text : List Char) : Option (List Char) :=
  match skipComment (skipBlanks text) with
  | [] => some []
  | rest => lineEnd? rest

/-- Leaves out blanks, comments and line ends, at most this many lines. -/
def skipLines : Nat → List Char → List Char
  | 0, text => text
  | bound + 1, text =>
    let rest := skipBlanks text
    match lineEnd? (skipComment rest) with
    | some rest => skipLines bound rest
    | none => rest

/-! ### Texts -/

/-- The value of a hexadecimal digit. -/
def hexDigit? (c : Char) : Option Nat :=
  if '0' ≤ c ∧ c ≤ '9' then some (c.toNat - '0'.toNat)
  else if 'a' ≤ c ∧ c ≤ 'f' then some (c.toNat - 'a'.toNat + 10)
  else if 'A' ≤ c ∧ c ≤ 'F' then some (c.toNat - 'A'.toNat + 10)
  else none

/-- Reads so many hexadecimal digits. -/
def hexNumber : Nat → Nat → Scan Nat
  | 0, value, text => some (value, text)
  | _ + 1, _, [] => none
  | count + 1, value, c :: rest => do
    let digit ← hexDigit? c
    hexNumber count (value * 16 + digit) rest

/-- Reads a character given by its number. -/
def numberedChar (count : Nat) : Scan Char := fun text => do
  let (n, rest) ← hexNumber count 0 text
  if n.isValidChar then return (Char.ofNat n, rest) else none

/-- Reads what stands after a backslash. -/
def escaped : Scan Char := fun text =>
  match text with
  | 'b' :: rest => some ('\x08', rest)
  | 't' :: rest => some ('\t', rest)
  | 'n' :: rest => some ('\n', rest)
  | 'f' :: rest => some ('\x0c', rest)
  | 'r' :: rest => some ('\r', rest)
  | '"' :: rest => some ('"', rest)
  | '\\' :: rest => some ('\\', rest)
  | 'u' :: rest => numberedChar 4 rest
  | 'U' :: rest => numberedChar 8 rest
  | _ => none

/-- A character that may stand between quotes as it is. -/
def isPlainChar (c : Char) : Bool :=
  c == '\t' || (0x20 ≤ c.toNat && c.toNat ≤ 0x7e) || isBeyondAscii c

/-- Reads a text up to its closing double quote, on one line. -/
def basicText : Nat → Scan (List Char)
  | 0, _ => none
  | bound + 1, text =>
    match text with
    | '"' :: rest => some ([], rest)
    | '\\' :: rest => do
      let (c, rest) ← escaped rest
      let (more, rest) ← basicText bound rest
      return (c :: more, rest)
    | c :: rest => do
      guard (isPlainChar c)
      let (more, rest) ← basicText bound rest
      return (c :: more, rest)
    | [] => none

/-- Reads a text up to its closing single quote, on one line. -/
def literalText : Scan (List Char)
  | [] => none
  | c :: rest =>
    if c = '\'' then some ([], rest)
    else do
      guard (isPlainChar c)
      let (more, rest) ← literalText rest
      return (c :: more, rest)

/-- Leaves out blanks and line ends. A carriage return without a line feed is none of them. -/
def skipSpace : List Char → List Char
  | [] => []
  | '\r' :: '\n' :: rest => skipSpace rest
  | c :: rest => if isBlank c || c == '\n' then skipSpace rest else c :: rest

/-- Leaves out a backslash at the end of a line with all blanks and line ends after it. -/
def joinedLine? (text : List Char) : Option (List Char) :=
  (lineEnd? (skipBlanks text)).map skipSpace

/-- The quotes at the front of a text, five of them at most, and the rest. -/
def quotes (mark : Char) : Nat → List Char → Nat × List Char
  | 0, text => (0, text)
  | _ + 1, [] => (0, [])
  | bound + 1, c :: rest =>
    if c = mark then
      let (count, rest) := quotes mark bound rest
      (count + 1, rest)
    else (0, c :: rest)

/-- Reads a text up to three closing quotes, over any number of lines. Two more quotes before them
belong to the text. -/
def longText (mark : Char) (escapes : Bool) : Nat → Scan (List Char)
  | 0, _ => none
  | bound + 1, text =>
    match text with
    | [] => none
    | c :: rest =>
      if c = mark then
        let (count, rest) := quotes mark 5 text
        if 3 ≤ count then some (List.replicate (count - 3) mark, rest)
        else do
          let (more, rest) ← longText mark escapes bound rest
          return (List.replicate count mark ++ more, rest)
      else if c = '\\' ∧ escapes then
        match joinedLine? rest with
        | some rest => longText mark escapes bound rest
        | none => do
          let (c, rest) ← escaped rest
          let (more, rest) ← longText mark escapes bound rest
          return (c :: more, rest)
      else
        match lineEnd? text with
        | some rest => do
          let (more, rest) ← longText mark escapes bound rest
          return ('\n' :: more, rest)
        | none => do
          guard (isPlainChar c)
          let (more, rest) ← longText mark escapes bound rest
          return (c :: more, rest)

/-- A line end directly after three opening quotes is no part of the text. -/
def skipFirstLineEnd (text : List Char) : List Char :=
  (lineEnd? text).getD text

/-- Reads a text of any sort. -/
def text : Scan String := fun input => do
  let (chars, rest) ← match input with
    | '"' :: '"' :: '"' :: rest => longText '"' true (rest.length + 1) (skipFirstLineEnd rest)
    | '\'' :: '\'' :: '\'' :: rest => longText '\'' false (rest.length + 1) (skipFirstLineEnd rest)
    | '"' :: rest => basicText (rest.length + 1) rest
    | '\'' :: rest => literalText rest
    | _ => none
  return (String.ofList chars, rest)

/-! ### Keys -/

/-- A character of a key without quotes. -/
def isKeyChar (c : Char) : Bool :=
  c.isAlphanum || c == '_' || c == '-'

/-- Reads one part of a key. -/
def keyPart : Scan String := fun input =>
  match input with
  | '"' :: rest => (basicText (rest.length + 1) rest).map fun (c, rest) => (String.ofList c, rest)
  | '\'' :: rest => (literalText rest).map fun (c, rest) => (String.ofList c, rest)
  | _ =>
    match input.takeWhile isKeyChar with
    | [] => none
    | part => some (String.ofList part, input.dropWhile isKeyChar)

/-- Reads a key: parts with points between them, at most so many. The last part is given apart. -/
def key : Nat → Scan (List String × String)
  | 0, _ => none
  | bound + 1, input => do
    let (part, rest) ← keyPart (skipBlanks input)
    match skipBlanks rest with
    | '.' :: rest =>
      let ((path, last), rest) ← key bound rest
      return ((part :: path, last), rest)
    | rest => return (([], part), rest)

/-! ### Numbers -/

/-- Whether a character is a decimal digit. -/
def isDigit (c : Char) : Bool := '0' ≤ c && c ≤ '9'

/-- Reads the further digits of a number. Single underscores may stand between digits. -/
def moreDigits (ok : Char → Bool) : Scan (List Char)
  | [] => some ([], [])
  | c :: rest =>
    if ok c then do
      let (more, rest) ← moreDigits ok rest
      return (c :: more, rest)
    else if c = '_' then
      if rest.head?.any ok then moreDigits ok rest else none
    else some ([], c :: rest)

/-- Reads digits, at least one. -/
def someDigits (ok : Char → Bool) : Scan (List Char) := fun text =>
  if text.head?.any ok then moreDigits ok text else none

/-- The number that digits make. -/
def ofDigits (base : Nat) (digits : List Char) : Nat :=
  digits.foldl (fun value c => value * base + (hexDigit? c).getD 0) 0

/-- A whole number, if it fits a machine word with a sign. -/
def wholeNumber (value : Int) : Option Value :=
  if -Int.pow 2 63 ≤ value ∧ value < Int.pow 2 63 then some (.int value) else none

/-- Reads the exponent of a number, if there is one. -/
def exponent : Scan (Option Int) := fun text =>
  match text with
  | c :: rest =>
    if c = 'e' ∨ c = 'E' then do
      let (down, rest) := match rest with
        | '-' :: rest => (true, rest)
        | '+' :: rest => (false, rest)
        | _ => (false, rest)
      let (digits, rest) ← someDigits isDigit rest
      let value : Int := ofDigits 10 digits
      return (some (if down then -value else value), rest)
    else some (none, text)
  | [] => some (none, [])

/-- Whether a positive number with these digits and this exponent is beyond every finite one. -/
def isBeyondRange (digits : List Char) (exponent : Int) : Bool :=
  let significand := ofDigits 10 digits
  let magnitude : Int := (significand.repr.length : Int) + exponent
  if significand = 0 ∨ magnitude < 300 then false
  else if 320 < magnitude then true
  else
    let (num, den) := if 0 ≤ exponent then (significand * Nat.pow 10 exponent.toNat, 1)
      else (significand, Nat.pow 10 (-exponent).toNat)
    (Binary64.round num den).isNone

/-- Reads the digits before the point. A zero stands alone there. -/
def wholeDigits : Scan (List Char)
  | '0' :: rest => some (['0'], rest)
  | text => someDigits isDigit text

/-- Reads a point with the digits after it, if there is one. -/
def fraction : Scan (Option (List Char))
  | '.' :: rest => (someDigits isDigit rest).map fun (digits, rest) => (some digits, rest)
  | text => some (none, text)

/-- The value of a number with a point or an exponent after its first digits, or without. A negative
number that is too great is taken, a positive one is not. -/
def ofDecimal (negative : Bool) (whole : List Char) (fraction : Option (List Char))
    (exponent : Option Int) : Option Value :=
  if fraction.isNone ∧ exponent.isNone then
    let value : Int := ofDigits 10 whole
    wholeNumber (if negative then -value else value)
  else
    let after := fraction.getD []
    let scale := exponent.getD 0 - (after.length : Int)
    if negative = false ∧ isBeyondRange (whole ++ after) scale then none else some .float

/-- Reads a number in decimal digits. -/
def decimal (negative : Bool) : Scan Value := fun input => do
  let (whole, rest) ← wholeDigits input
  let (fraction, rest) ← fraction rest
  let (exponent, rest) ← exponent rest
  return (← ofDecimal negative whole fraction exponent, rest)

/-- Reads a whole number in another base, after its letter. -/
def based (base : Nat) (ok : Char → Bool) : Scan Value := fun input => do
  let (digits, rest) ← someDigits ok input
  return (← wholeNumber (ofDigits base digits), rest)

/-- Reads a number of any sort. -/
def number : Scan Value := fun input =>
  match input with
  | '0' :: 'x' :: rest => based 16 (fun c => (hexDigit? c).isSome) rest
  | '0' :: 'o' :: rest => based 8 (fun c => '0' ≤ c && c ≤ '7') rest
  | '0' :: 'b' :: rest => based 2 (fun c => c == '0' || c == '1') rest
  | '+' :: rest => signed false rest
  | '-' :: rest => signed true rest
  | _ => signed false input
where
  /-- Reads a number after its sign. -/
  signed (negative : Bool) : Scan Value
    | 'i' :: 'n' :: 'f' :: rest => some (.float, rest)
    | 'n' :: 'a' :: 'n' :: rest => some (.float, rest)
    | input => decimal negative input

/-! ### Moments in time -/

/-- Reads so many decimal digits. -/
def fixedDigits : Nat → Nat → Scan Nat
  | 0, value, text => some (value, text)
  | _ + 1, _, [] => none
  | count + 1, value, c :: rest =>
    if isDigit c then fixedDigits count (value * 10 + (c.toNat - '0'.toNat)) rest else none

/-- Reads a certain character. -/
def char (expected : Char) : Scan Unit
  | [] => none
  | c :: rest => if c = expected then some ((), rest) else none

/-- Whether a year has a day more. -/
def isLeapYear (year : Nat) : Bool :=
  year % 4 == 0 && (year % 100 != 0 || year % 400 == 0)

/-- How many days a month has. -/
def daysOf (year month : Nat) : Nat :=
  match month with
  | 2 => if isLeapYear year then 29 else 28
  | 4 => 30
  | 6 => 30
  | 9 => 30
  | 11 => 30
  | _ => 31

/-- Reads a day of the calendar. -/
def date : Scan Unit := fun input => do
  let (year, rest) ← fixedDigits 4 0 input
  let (_, rest) ← char '-' rest
  let (month, rest) ← fixedDigits 2 0 rest
  let (_, rest) ← char '-' rest
  let (day, rest) ← fixedDigits 2 0 rest
  guard (1 ≤ month ∧ month ≤ 12 ∧ 1 ≤ day ∧ day ≤ daysOf year month)
  return ((), rest)

/-- Reads hours and minutes. -/
def hoursAndMinutes : Scan Unit := fun input => do
  let (hours, rest) ← fixedDigits 2 0 input
  let (_, rest) ← char ':' rest
  let (minutes, rest) ← fixedDigits 2 0 rest
  guard (hours ≤ 23 ∧ minutes ≤ 59)
  return ((), rest)

/-- Reads a time of day. -/
def time : Scan Unit := fun input => do
  let (_, rest) ← hoursAndMinutes input
  let (_, rest) ← char ':' rest
  let (seconds, rest) ← fixedDigits 2 0 rest
  guard (seconds ≤ 60)
  match rest with
  | '.' :: c :: rest => if isDigit c then return ((), rest.dropWhile isDigit) else none
  | _ => return ((), rest)

/-- Reads the distance from universal time, if there is one. -/
def offset : Scan Unit := fun input =>
  match input with
  | 'Z' :: rest => some ((), rest)
  | 'z' :: rest => some ((), rest)
  | '+' :: rest => hoursAndMinutes rest
  | '-' :: rest => hoursAndMinutes rest
  | _ => some ((), input)

/-- Whether a text begins like a time of day. -/
def startsTime (text : List Char) : Bool :=
  match text with
  | a :: b :: ':' :: _ => isDigit a && isDigit b
  | _ => false

/-- Whether a text begins like a day of the calendar. -/
def startsDate (text : List Char) : Bool :=
  match text with
  | a :: b :: c :: d :: '-' :: _ => isDigit a && isDigit b && isDigit c && isDigit d
  | _ => false

/-- Reads a moment: a day, a time, or a day with a time. -/
def moment : Scan Value := fun input =>
  if startsDate input then do
    let (_, rest) ← date input
    match rest with
    | c :: after =>
      if (c = 'T' ∨ c = 't' ∨ c = ' ') ∧ startsTime after then do
        let (_, rest) ← time after
        let (_, rest) ← offset rest
        return (.moment, rest)
      else return (.moment, rest)
    | [] => return (.moment, [])
  else do
    let (_, rest) ← time input
    return (.moment, rest)

end Toml

end NameBinding
