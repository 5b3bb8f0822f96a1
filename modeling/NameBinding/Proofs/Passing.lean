/-
This file says how a value may be written that nobody needs, and proves that every such value is
passed over. It may be any value at all, with blanks wherever they may stand, with numbers that are
too great for anything, with halves of pairs among the escapes, and as deep as it likes. A reader
that passes over it keeps in a list what is open around it, so the values are gone through by
induction on how they are written, and each hands on to whatever is open around it.
-/

import NameBinding.Proofs.Tokens

namespace NameBinding

namespace Reader

/-! ### Blanks and separators -/

/-- Whether a text is nothing but blanks. -/
def Blanks (text : List Char) : Prop :=
  ∀ c ∈ text, isBlank c = true

instance (text : List Char) : Decidable (Blanks text) :=
  decidable_of_iff (text.all isBlank = true) List.all_eq_true

/-- A sign with blanks around it. -/
inductive Spaced (sign : Char) : List Char → Prop
  | mk {before after : List Char} (blanks : Blanks before) (more : Blanks after) :
      Spaced sign (before ++ sign :: after)

/-- What stands before an item: only blanks before the first, and a comma before any other. -/
inductive Separator : Bool → List Char → Prop
  | first {text : List Char} (blanks : Blanks text) : Separator true text
  | comma {text : List Char} (spaced : Spaced ',' text) : Separator false text

theorem skipBlanks_append {blanks : List Char} (given : Blanks blanks) (rest : List Char) :
    skipBlanks (blanks ++ rest) = skipBlanks rest :=
  List.dropWhile_append_of_pos given

theorem skipBlanks_sign {blanks : List Char} (given : Blanks blanks) {c : Char}
    (plain : isBlank c = false) (rest : List Char) :
    skipBlanks (blanks ++ c :: rest) = c :: rest := by
  rw [skipBlanks_append given, skipBlanks_cons rest plain]

/-- Blanks end a number, and so does what ends one without them. -/
theorem Blanks.endsNumber {blanks rest : List Char} (given : Blanks blanks)
    (ends : EndsNumber rest) : EndsNumber (blanks ++ rest) := by
  cases blanks with
  | nil => exact ends
  | cons c more =>
    have blank := given c List.mem_cons_self
    refine endsNumber_cons _ ?_
    simp only [isBlank, Bool.or_eq_true, beq_iff_eq] at blank
    rcases blank with ((rfl | rfl) | rfl) | rfl <;> decide

/-! ### Texts in quotes -/

/-- What may stand for one character, or for half of a pair, between quotes. -/
inductive LooseUnit : List Char → Prop
  | plain {c : Char} (printable : ¬ c.toNat < 0x20) (other : c ≠ '"' ∧ c ≠ '\\') : LooseUnit [c]
  | lettered {letter : Char} (known : (lettered? letter).isSome) : LooseUnit ['\\', letter]
  | numbered {a b c d : Char} (all : ∀ digit ∈ [a, b, c, d], (hexValue? digit).isSome) :
      LooseUnit ['\\', 'u', a, b, c, d]

/-- A text with its closing quote. -/
inductive LooseText : List Char → Prop
  | done : LooseText ['"']
  | unit {written rest : List Char} (head : LooseUnit written) (tail : LooseText rest) :
      LooseText (written ++ rest)

theorem hexEscape_digits {a b c d : Char} (all : ∀ digit ∈ [a, b, c, d], (hexValue? digit).isSome)
    (rest : List Char) : ∃ n, hexEscape (a :: b :: c :: d :: rest) = .ok (n, rest) := by
  simp only [List.forall_mem_cons, Option.isSome_iff_exists] at all
  obtain ⟨⟨a', first⟩, ⟨b', second⟩, ⟨c', third⟩, ⟨d', fourth⟩, -⟩ := all
  simp only [hexEscape, first, second, third, fourth]
  exact ⟨_, rfl⟩

theorem skipUnits_unit {written : List Char} (given : LooseUnit written) (step : Char)
    (bound rest : List Char) :
    skipUnits (step :: bound) (written ++ rest) = skipUnits bound rest := by
  cases given with
  | plain printable other =>
    rw [List.singleton_append, skipUnits]
    · rw [if_neg printable]
    · exact other.1
    · exact other.2
  | @lettered letter known =>
    have other : letter ≠ 'u' := by
      rintro rfl
      exact absurd known (by decide)
    show (skipEscaped (letter :: rest) >>= fun rest => skipUnits bound rest) = _
    rw [skipEscaped.eq_3 _ _ other, if_pos known]
    rfl
  | numbered all =>
    obtain ⟨n, read⟩ := hexEscape_digits all rest
    show ((hexEscape (_ :: _ :: _ :: _ :: rest)).map Prod.snd >>= fun rest =>
      skipUnits bound rest) = _
    rw [read]
    rfl

theorem LooseText.skipUnits {written : List Char} (given : LooseText written)
    (bound rest : List Char) (room : written.length ≤ bound.length) :
    skipUnits bound (written ++ rest) = .ok rest := by
  induction given generalizing bound with
  | done =>
    obtain ⟨step, more, rfl⟩ := List.exists_cons_of_length_pos room
    rfl
  | @unit written others head tail inductionHypothesis =>
    have some : 0 < written.length := by cases head <;> exact Nat.succ_pos _
    rw [List.length_append] at room
    obtain ⟨step, more, rfl⟩ := List.exists_cons_of_length_pos (show 0 < bound.length by omega)
    rw [List.length_cons] at room
    rw [List.append_assoc, skipUnits_unit head, inductionHypothesis more (by omega)]

/-- A text is passed over up to its closing quote. -/
theorem LooseText.skipQuoted {written : List Char} (given : LooseText written) (rest : List Char) :
    skipQuoted (written ++ rest) = .ok rest :=
  given.skipUnits _ rest (by rw [List.length_append]; exact Nat.le_add_right _ _)

/-! ### Numbers -/

/-- One or more digits. -/
inductive Digits : List Char → Prop
  | mk {c : Char} {rest : List Char} (all : ∀ digit ∈ c :: rest, isDigit digit = true) :
      Digits (c :: rest)

/-- The part of a number from the point on. -/
inductive FractionPart : List Char → Prop
  | none : FractionPart []
  | point {written : List Char} (digits : Digits written) : FractionPart ('.' :: written)

/-- The part of a number from the exponent on. -/
inductive ExponentPart : List Char → Prop
  | none : ExponentPart []
  | power {letter : Char} {sign written : List Char} (start : letter = 'e' ∨ letter = 'E')
      (signed : sign = [] ∨ sign = ['+'] ∨ sign = ['-']) (digits : Digits written) :
      ExponentPart (letter :: (sign ++ written))

/-- A number without its sign. -/
inductive Unsigned : List Char → Prop
  | mk {whole fraction exponent : List Char} (first : WholePart whole)
      (second : FractionPart fraction) (third : ExponentPart exponent) :
      Unsigned (whole ++ (fraction ++ exponent))

theorem Digits.read {written rest : List Char} (given : Digits written) (atEnd : ReadError)
    (ends : EndsDigits rest) : someDigits atEnd (written ++ rest) = .ok (written, rest) := by
  cases given with
  | mk all => exact someDigits_append atEnd all ends

theorem ExponentPart.endsDigits {written rest : List Char} (given : ExponentPart written)
    (ends : EndsNumber rest) : EndsDigits (written ++ rest) := by
  cases given with
  | none => exact ends.endsDigits
  | power start =>
    rintro _ ⟨⟩
    rcases start with rfl | rfl <;> rfl

theorem FractionPart.endsDigits {fraction exponent rest : List Char} (given : FractionPart fraction)
    (after : ExponentPart exponent) (ends : EndsNumber rest) :
    EndsDigits (fraction ++ (exponent ++ rest)) := by
  cases given with
  | none => exact after.endsDigits ends
  | point digits =>
    rintro _ ⟨⟩
    rfl

theorem FractionPart.read {fraction exponent rest : List Char} (given : FractionPart fraction)
    (atEnd : ReadError) (after : ExponentPart exponent) (ends : EndsNumber rest) :
    ∃ digits, fractionDigits atEnd (fraction ++ (exponent ++ rest)) =
      .ok (digits, exponent ++ rest) := by
  cases given with
  | none =>
    refine ⟨Option.none, ?_⟩
    cases after with
    | none => exact fractionDigits_none atEnd rest ends
    | power start => rcases start with rfl | rfl <;> rfl
  | @point written digits =>
    refine ⟨some written, ?_⟩
    show (someDigits atEnd (written ++ (exponent ++ rest)) >>= _) = _
    rw [digits.read atEnd (after.endsDigits ends)]
    rfl

/-- The sign of an exponent is read, and none is found before digits. -/
theorem exponentSign_append {sign written : List Char} (digits : Digits written)
    (signed : sign = [] ∨ sign = ['+'] ∨ sign = ['-']) (rest : List Char) :
    ∃ negative, exponentSign (sign ++ (written ++ rest)) = (negative, written ++ rest) := by
  rcases signed with rfl | rfl | rfl
  · obtain ⟨all⟩ := digits
    refine ⟨false, ?_⟩
    unfold exponentSign
    split
    · obtain rfl := (List.cons.inj ‹_›).1
      exact absurd (all '+' List.mem_cons_self) (by decide)
    · obtain rfl := (List.cons.inj ‹_›).1
      exact absurd (all '-' List.mem_cons_self) (by decide)
    · rfl
  · exact ⟨false, rfl⟩
  · exact ⟨true, rfl⟩

theorem ExponentPart.read {written rest : List Char} (given : ExponentPart written)
    (atEnd : ReadError) (ends : EndsNumber rest) :
    ∃ digits, exponentDigits atEnd (written ++ rest) = .ok (digits, rest) := by
  cases given with
  | none => exact ⟨Option.none, exponentDigits_none atEnd rest ends⟩
  | @power letter sign written start signed digits =>
    obtain ⟨negative, read⟩ := exponentSign_append digits signed rest
    refine ⟨some (negative, written), ?_⟩
    rw [List.cons_append, List.append_assoc, exponentDigits, if_pos start, read]
    show (someDigits atEnd (written ++ rest) >>= _) = _
    rw [digits.read atEnd ends.endsDigits]
    rfl

/-- A number without a sign begins with a digit. -/
theorem Unsigned.head {written : List Char} (given : Unsigned written) :
    ∃ c more, written = c :: more ∧ isDigit c = true := by
  obtain ⟨first, second, third⟩ := given
  cases first with
  | zero => exact ⟨'0', _, rfl, rfl⟩
  | digits nonzero all => exact ⟨_, _, rfl, all _ List.mem_cons_self⟩

theorem Unsigned.read {written rest : List Char} (given : Unsigned written) (atEnd : ReadError)
    (ends : EndsNumber rest) : ∃ whole fraction exponent afterWhole afterFraction,
      wholeDigits atEnd (written ++ rest) = .ok (whole, afterWhole) ∧
        fractionDigits atEnd afterWhole = .ok (fraction, afterFraction) ∧
          exponentDigits atEnd afterFraction = .ok (exponent, rest) := by
  obtain ⟨first, second, third⟩ := given
  obtain ⟨fraction, afterPoint⟩ := second.read atEnd third ends
  obtain ⟨exponent, afterLetter⟩ := third.read atEnd ends
  rw [List.append_assoc, List.append_assoc]
  exact ⟨_, fraction, exponent, _, _,
    wholeDigits_append atEnd first (second.endsDigits third ends), afterPoint, afterLetter⟩

/-- A number, with its sign if it is negative. -/
inductive WrittenNumber : List Char → Prop
  | unsigned {written : List Char} (given : Unsigned written) : WrittenNumber written
  | negative {written : List Char} (given : Unsigned written) : WrittenNumber ('-' :: written)

theorem WrittenNumber.head {written : List Char} (given : WrittenNumber written) :
    ∃ c more, written = c :: more ∧ (c = '-' ∨ isDigit c = true) := by
  cases given with
  | unsigned given =>
    obtain ⟨c, more, head, digit⟩ := given.head
    exact ⟨c, more, head, .inr digit⟩
  | negative given => exact ⟨'-', _, rfl, .inl rfl⟩

/-- A number is read, and nothing behind it. -/
theorem WrittenNumber.read {written rest : List Char} (given : WrittenNumber written)
    (atEnd : ReadError) (ends : EndsNumber rest) :
    ∃ value, numeral atEnd (written ++ rest) = .ok (value, rest) := by
  cases given with
  | unsigned given =>
    have positive : ∀ more, written ++ rest ≠ '-' :: more := by
      obtain ⟨c, others, rfl, digit⟩ := given.head
      rintro more same
      obtain rfl := (List.cons.inj same).1
      exact absurd digit (by decide)
    obtain ⟨_, _, _, _, _, whole, fraction, exponent⟩ := given.read atEnd ends
    simp only [numeral.eq_2 _ _ positive, bind, Except.bind, whole, fraction, exponent]
    exact ⟨_, rfl⟩
  | negative given =>
    obtain ⟨_, _, _, _, _, whole, fraction, exponent⟩ := given.read atEnd ends
    simp only [List.cons_append, numeral, bind, Except.bind, whole, fraction, exponent]
    exact ⟨_, rfl⟩

/-! ### Values -/

mutual

/-- Any value at all, without blanks around it. -/
inductive AnyValue : List Char → Prop
  | null : AnyValue ['n', 'u', 'l', 'l']
  | trueWord : AnyValue ['t', 'r', 'u', 'e']
  | falseWord : AnyValue ['f', 'a', 'l', 's', 'e']
  | text {written : List Char} (given : LooseText written) : AnyValue ('"' :: written)
  | number {written : List Char} (given : WrittenNumber written) : AnyValue written
  | list {written : List Char} (items : AnyItems true written) : AnyValue ('[' :: written)
  | object {written : List Char} (members : AnyMembers true written) :
      AnyValue ('\x7b' :: written)

/-- The rest of a list, from its first item on or from behind one. -/
inductive AnyItems : Bool → List Char → Prop
  | done {first : Bool} {blanks : List Char} (given : Blanks blanks) :
      AnyItems first (blanks ++ [']'])
  | item {first : Bool} {separator written rest : List Char} (before : Separator first separator)
      (value : AnyValue written) (tail : AnyItems false rest) :
      AnyItems first (separator ++ (written ++ rest))

/-- The rest of an object, from its first member on or from behind one. -/
inductive AnyMembers : Bool → List Char → Prop
  | done {first : Bool} {blanks : List Char} (given : Blanks blanks) :
      AnyMembers first (blanks ++ ['\x7d'])
  | member {first : Bool} {separator key colon written rest : List Char}
      (before : Separator first separator) (name : LooseText key) (spaced : Spaced ':' colon)
      (value : AnyValue written) (tail : AnyMembers false rest) :
      AnyMembers first (separator ++ '"' :: (key ++ (colon ++ (written ++ rest))))

end

theorem AnyValue.head {written : List Char} (given : AnyValue written) :
    ∃ c more, written = c :: more ∧ isBlank c = false ∧ c ≠ ']' := by
  cases given with
  | null | trueWord | falseWord | text | list | object => exact ⟨_, _, rfl, by decide⟩
  | number given =>
    obtain ⟨c, more, head, start⟩ := given.head
    have plain := plain_of_number start
    exact ⟨c, more, head, plain.1, plain.2.1⟩

theorem Separator.endsNumber {separator : List Char} (given : Separator false separator)
    (rest : List Char) : EndsNumber (separator ++ rest) := by
  cases given with | comma spaced
  obtain ⟨blanks, -⟩ := spaced
  rw [List.append_assoc]
  exact blanks.endsNumber (endsNumber_cons _ (by decide))

theorem AnyItems.endsNumber {written : List Char} (given : AnyItems false written)
    (rest : List Char) : EndsNumber (written ++ rest) := by
  cases given with
  | done given =>
    rw [List.append_assoc]
    exact given.endsNumber (endsNumber_cons _ (by decide))
  | item before =>
    rw [List.append_assoc]
    exact before.endsNumber _

theorem AnyMembers.endsNumber {written : List Char} (given : AnyMembers false written)
    (rest : List Char) : EndsNumber (written ++ rest) := by
  cases given with
  | done given =>
    rw [List.append_assoc]
    exact given.endsNumber (endsNumber_cons _ (by decide))
  | member before =>
    rw [List.append_assoc]
    exact before.endsNumber _

/-! ### Passing over values -/

/-- Whether everything up to a rest is passed over, so that what is open around it goes on from
there with steps enough left. -/
def GoesOn (result : Except ReadError (List Char)) (around : List Frame) (rest : List Char) :
    Prop :=
  ∃ left : List Char, rest.length ≤ left.length ∧ result = skipEnd left around rest

/-- The rest of a list or an object is passed over if it is so from behind what comes first. -/
theorem GoesOn.trans {result : Except ReadError (List Char)} {inner around : List Frame}
    {middle rest : List Char} (head : GoesOn result inner middle)
    (tail : ∀ left : List Char, middle.length ≤ left.length →
      GoesOn (skipEnd left inner middle) around rest) : GoesOn result around rest := by
  obtain ⟨left, room, rfl⟩ := head
  exact tail left room

theorem skipValue_blanks {blanks : List Char} (given : Blanks blanks) (bound : List Char)
    (around : List Frame) (text : List Char) :
    skipValue bound around (blanks ++ text) = skipValue bound around text := by
  cases bound with
  | nil => rfl
  | cons step more => rw [skipValue, skipValue, skipBlanks_append given]

/-- Passes over the rest of a list, with its opening bracket if no item was passed over yet. -/
def skipItems : Bool → List Char → List Frame → List Char → Except ReadError (List Char)
  | true, bound, around, text => skipValue bound around ('[' :: text)
  | false, bound, around, text => skipEnd bound (.list :: around) text

/-- Passes over the rest of an object, with its opening brace if no member was passed over yet. -/
def skipMembers : Bool → List Char → List Frame → List Char → Except ReadError (List Char)
  | true, bound, around, text => skipValue bound around ('\x7b' :: text)
  | false, bound, around, text => skipEnd bound (.object :: around) text

section Steps

variable {step : Char} {bound blanks separator text rest : List Char} {around : List Frame}

theorem skipItems_done (first : Bool) (given : Blanks blanks) :
    skipItems first (step :: bound) around (blanks ++ ']' :: rest) = skipEnd bound around rest := by
  have close : skipBlanks (blanks ++ ']' :: rest) = ']' :: rest :=
    skipBlanks_sign given (by decide) rest
  cases first with
  | true =>
    rw [skipItems, skipValue, skipBlanks_cons _ (by decide)]
    simp only [close]
  | false => simp only [skipItems, skipEnd, close]

theorem skipItems_item {first : Bool} {written : List Char} (before : Separator first separator)
    (value : AnyValue written) :
    skipItems first (step :: bound) around (separator ++ (written ++ rest)) =
      skipValue bound (.list :: around) (written ++ rest) := by
  obtain ⟨c, others, rfl, plain, item⟩ := value.head
  cases before with
  | first blanks =>
    rw [skipItems, skipValue, skipBlanks_cons _ (by decide)]
    simp only [List.cons_append, skipBlanks_sign blanks plain]
    split
    · exact absurd ‹_› (List.cons_ne_nil _ _)
    · exact absurd (List.cons.inj ‹_›).1 item
    · rfl
  | comma spaced =>
    obtain ⟨blanks, more⟩ := spaced
    rw [List.append_assoc, List.cons_append, skipItems, skipEnd,
      skipBlanks_sign blanks (by decide)]
    exact skipValue_blanks more bound _ _

theorem skipMembers_done (first : Bool) (given : Blanks blanks) :
    skipMembers first (step :: bound) around (blanks ++ '\x7d' :: rest) =
      skipEnd bound around rest := by
  have close : skipBlanks (blanks ++ '\x7d' :: rest) = '\x7d' :: rest :=
    skipBlanks_sign given (by decide) rest
  cases first with
  | true =>
    rw [skipMembers, skipValue, skipBlanks_cons _ (by decide)]
    simp only [close]
  | false => simp only [skipMembers, skipEnd, close]

theorem skipKey_blanks (given : Blanks blanks) (bound : List Char) :
    skipKey bound around (blanks ++ text) = skipKey bound around text := by
  cases bound with
  | nil => rfl
  | cons step more => rw [skipKey, skipKey, skipBlanks_append given]

theorem skipMembers_member {first : Bool} (before : Separator first separator) :
    skipMembers first (step :: bound) around (separator ++ '"' :: rest) =
      skipKey bound (.object :: around) ('"' :: rest) := by
  cases before with
  | first blanks =>
    rw [skipMembers, skipValue, skipBlanks_cons _ (by decide)]
    simp only [skipBlanks_sign blanks (show isBlank '"' = false by decide) rest]
    rfl
  | comma spaced =>
    obtain ⟨blanks, more⟩ := spaced
    rw [List.append_assoc, List.cons_append, skipMembers, skipEnd,
      skipBlanks_sign blanks (by decide)]
    exact skipKey_blanks more bound

theorem skipKey_name {key colon : List Char} (name : LooseText key) (spaced : Spaced ':' colon) :
    skipKey (step :: bound) around ('"' :: (key ++ (colon ++ text))) =
      skipValue bound around text := by
  obtain ⟨blanks, more⟩ := spaced
  rw [skipKey, skipBlanks_cons _ (by decide)]
  simp only [name.skipQuoted, bind, Except.bind, List.append_assoc, List.cons_append,
    skipBlanks_sign blanks (show isBlank ':' = false by decide)]
  exact skipValue_blanks more bound around text

end Steps

theorem Separator.length {first : Bool} {separator : List Char}
    (before : Separator first separator) : 1 ≤ separator.length + first.toNat := by
  cases before with
  | first blanks => exact Nat.le_add_left _ _
  | comma spaced =>
    obtain ⟨-, -⟩ := spaced
    simp only [List.length_append, List.length_cons]
    omega

theorem GoesOn.step (start : List Char → Except ReadError (List Char)) {bound rest : List Char}
    {around : List Frame} (room : rest.length < bound.length)
    (passes : ∀ step more, start (step :: more) = skipEnd more around rest) :
    GoesOn (start bound) around rest := by
  obtain ⟨step, more, rfl⟩ := List.exists_cons_of_length_pos (Nat.zero_lt_of_lt room)
  exact ⟨more, Nat.le_of_lt_succ room, passes step more⟩

theorem length_lt_of_cons {c : Char} {written rest bound : List Char}
    (room : ((c :: written) ++ rest).length ≤ bound.length) : rest.length < bound.length := by
  rw [List.length_append, List.length_cons] at room
  omega

theorem skipValue_number {written rest : List Char} (given : WrittenNumber written)
    (ends : EndsNumber rest) (step : Char) (bound : List Char) (around : List Frame) :
    skipValue (step :: bound) around (written ++ rest) = skipEnd bound around rest := by
  obtain ⟨value, read⟩ := given.read .invalidNumber ends
  obtain ⟨c, more, rfl, start⟩ := given.head
  rw [List.cons_append] at read ⊢
  have plain := plain_of_number start
  rw [skipValue, skipBlanks_cons _ plain.1]
  split <;> rename_i same
  case h_1 => exact absurd same (List.cons_ne_nil _ _)
  case h_8 =>
    obtain ⟨rfl, rfl⟩ := List.cons.inj same
    rw [if_pos start, read]
    rfl
  all_goals
    obtain rfl := (List.cons.inj same).1
    exact absurd start (by decide)

mutual

/-- A value is passed over, whatever is open around it. -/
theorem AnyValue.passed : ∀ {written : List Char}, AnyValue written →
    ∀ (bound : List Char) (around : List Frame) (rest : List Char), EndsNumber rest →
      (written ++ rest).length ≤ bound.length →
        GoesOn (skipValue bound around (written ++ rest)) around rest
  | _, .null, _, around, rest, _, room =>
    .step (skipValue · around _) (length_lt_of_cons room) fun _ _ => rfl
  | _, .trueWord, _, around, rest, _, room =>
    .step (skipValue · around _) (length_lt_of_cons room) fun _ _ => rfl
  | _, .falseWord, _, around, rest, _, room =>
    .step (skipValue · around _) (length_lt_of_cons room) fun _ _ => rfl
  | _, @AnyValue.text written given, _, around, rest, _, room =>
    .step (skipValue · around _) (length_lt_of_cons room) fun step more => by
      show (skipQuoted (written ++ rest) >>= fun rest => skipEnd more around rest) = _
      rw [given.skipQuoted]
      rfl
  | _, .number given, _, around, rest, ends, room =>
    .step (skipValue · around _) (by
      obtain ⟨c, more, rfl, -⟩ := given.head
      exact length_lt_of_cons room) fun step more => skipValue_number given ends step more around
  | _, .list items, bound, around, rest, _, room => items.passed bound around rest room
  | _, .object members, bound, around, rest, _, room => members.passed bound around rest room

/-- The rest of a list is passed over, and so is the list if it was not opened yet. -/
theorem AnyItems.passed : ∀ {first : Bool} {written : List Char}, AnyItems first written →
    ∀ (bound : List Char) (around : List Frame) (rest : List Char),
      (written ++ rest).length + first.toNat ≤ bound.length →
        GoesOn (skipItems first bound around (written ++ rest)) around rest
  | first, _, @AnyItems.done _ blanks given, _, around, rest, room => by
    rw [List.append_assoc] at room ⊢
    refine .step (skipItems first · around (blanks ++ ']' :: rest)) ?_ fun step more =>
      skipItems_done first given
    simp only [List.length_append, List.length_cons] at room
    omega
  | first, _, .item before value tail, bound, around, rest, room => by
    have taken := before.length
    simp only [List.length_append] at room
    obtain ⟨step, more, rfl⟩ := List.exists_cons_of_length_pos (show 0 < bound.length by omega)
    rw [List.append_assoc, List.append_assoc, skipItems_item before value]
    have passed := value.passed more (.list :: around) _ (tail.endsNumber rest) (by
      simp only [List.length_append, List.length_cons] at room ⊢
      omega)
    exact passed.trans fun left enough => tail.passed left around rest enough

/-- The rest of an object is passed over, and so is the object if it was not opened yet. -/
theorem AnyMembers.passed : ∀ {first : Bool} {written : List Char}, AnyMembers first written →
    ∀ (bound : List Char) (around : List Frame) (rest : List Char),
      (written ++ rest).length + first.toNat ≤ bound.length →
        GoesOn (skipMembers first bound around (written ++ rest)) around rest
  | first, _, @AnyMembers.done _ blanks given, _, around, rest, room => by
    rw [List.append_assoc] at room ⊢
    refine .step (skipMembers first · around (blanks ++ '\x7d' :: rest)) ?_ fun step more =>
      skipMembers_done first given
    simp only [List.length_append, List.length_cons] at room
    omega
  | first, _, .member before name spaced value tail, bound, around, rest, room => by
    have taken := before.length
    simp only [List.length_append, List.length_cons] at room
    obtain ⟨step, steps, rfl⟩ := List.exists_cons_of_length_pos (show 0 < bound.length by omega)
    rw [List.length_cons] at room
    obtain ⟨next, more, rfl⟩ := List.exists_cons_of_length_pos (show 0 < steps.length by omega)
    simp only [List.append_assoc, List.cons_append]
    rw [skipMembers_member before, skipKey_name name spaced]
    have passed := value.passed more (.object :: around) _ (tail.endsNumber rest) (by
      simp only [List.length_append, List.length_cons] at room ⊢
      omega)
    exact passed.trans fun left enough => tail.passed left around rest enough

end

/-- A value is passed over by itself, with blanks before it, if what follows cannot be read as a
part of it. -/
theorem AnyValue.skip {written blanks rest : List Char} (given : AnyValue written)
    (before : Blanks blanks) (ends : EndsNumber rest) :
    skip (blanks ++ (written ++ rest)) = .ok rest := by
  obtain ⟨left, -, passed⟩ := given.passed (blanks ++ (written ++ rest)) [] rest ends (by
    simp only [List.length_append]
    omega)
  rw [Reader.skip, skipValue_blanks before, passed, skipEnd]

end Reader

end NameBinding
