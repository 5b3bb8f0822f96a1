/-
This file passes over a value that nobody needs. The value still has to be written correctly, except
that escapes may be halves of pairs, and lists and objects may stand inside one another as deep as
they like. So the way back out of them is kept as a list of what is open.
-/

import NameBinding.Json.Token

namespace NameBinding

namespace Reader

/-! ### Texts in quotes -/

/-- Passes over what stands after a backslash. -/
def skipEscaped (text : List Char) : Except ReadError (List Char) :=
  match text with
  | [] => .error (.truncated .text)
  | 'u' :: rest => (hexEscape rest).map Prod.snd
  | c :: rest => if (lettered? c).isSome then .ok rest else .error .invalidEscape

/-- Passes over characters up to the closing quote, at most as many as the first list has items. -/
def skipUnits : List Char → List Char → Except ReadError (List Char)
  | [], _ => .error (.truncated .text)
  | _ :: bound, text =>
    match text with
    | [] => .error (.truncated .text)
    | '"' :: rest => .ok rest
    | '\\' :: rest => do
      let rest ← skipEscaped rest
      skipUnits bound rest
    | c :: rest => if c.toNat < 0x20 then .error .controlCharacter else skipUnits bound rest

/-- Passes over a text after its opening quote. -/
def skipQuoted (text : List Char) : Except ReadError (List Char) :=
  skipUnits text text

/-! ### Values -/

/-- What is open around a value. -/
inductive Frame
  | list
  | object
deriving DecidableEq

mutual

/-- Passes over a value and over everything up to the end of what is open around it, in at most as
many steps as the first list has items. -/
def skipValue : List Char → List Frame → List Char → Except ReadError (List Char)
  | [], _, _ => .error (.truncated .value)
  | _ :: bound, around, text =>
    match skipBlanks text with
    | [] => .error (.truncated .value)
    | 'n' :: rest => do skipEnd bound around (← word ['u', 'l', 'l'] rest)
    | 't' :: rest => do skipEnd bound around (← word ['r', 'u', 'e'] rest)
    | 'f' :: rest => do skipEnd bound around (← word ['a', 'l', 's', 'e'] rest)
    | '"' :: rest => do skipEnd bound around (← skipQuoted rest)
    | '[' :: rest =>
      match skipBlanks rest with
      | [] => .error (.truncated .list)
      | ']' :: rest => skipEnd bound around rest
      | rest => skipValue bound (.list :: around) rest
    | '\x7b' :: rest =>
      match skipBlanks rest with
      | [] => .error (.truncated .object)
      | '\x7d' :: rest => skipEnd bound around rest
      | rest => skipKey bound (.object :: around) rest
    | c :: rest =>
      if c = '-' ∨ isDigit c then do
        let (_, rest) ← numeral .invalidNumber (c :: rest)
        skipEnd bound around rest
      else .error .expectedValue

/-- Passes over a key with its colon, and goes on with the value. -/
def skipKey : List Char → List Frame → List Char → Except ReadError (List Char)
  | [], _, _ => .error (.truncated .object)
  | _ :: bound, around, text =>
    match skipBlanks text with
    | [] => .error (.truncated .object)
    | '"' :: rest => do
      match skipBlanks (← skipQuoted rest) with
      | [] => .error (.truncated .object)
      | ':' :: rest => skipValue bound around rest
      | _ => .error .expectedColon
    | _ => .error .expectedKey

/-- Goes on after a value: with the next one, or with the end of what is open. -/
def skipEnd : List Char → List Frame → List Char → Except ReadError (List Char)
  | _, [], text => .ok text
  | [], .list :: _, _ => .error (.truncated .list)
  | [], .object :: _, _ => .error (.truncated .object)
  | _ :: bound, .list :: around, text =>
    match skipBlanks text with
    | [] => .error (.truncated .list)
    | ',' :: rest => skipValue bound (.list :: around) rest
    | ']' :: rest => skipEnd bound around rest
    | _ => .error .expectedListEnd
  | _ :: bound, .object :: around, text =>
    match skipBlanks text with
    | [] => .error (.truncated .object)
    | ',' :: rest => skipKey bound (.object :: around) rest
    | '\x7d' :: rest => skipEnd bound around rest
    | _ => .error .expectedObjectEnd

end

/-- Passes over a value. Every step takes at least one character, so the text is long enough to count
them. -/
def skip (text : List Char) : Except ReadError (List Char) :=
  skipValue text [] text

end Reader

end NameBinding
