/-
This file proves that a text in quotes and a whole number are read as what was written. A text is
read one character after the other: each is written with an escape or as itself, and either way
reading takes just what was written for it. A number has no end of its own, so it is read back only
if what stands behind it cannot be a part of it. The numbers of documents fit a machine word, so no
digit of them is dropped.
-/

import NameBinding.Json
import NameBinding.Json.Number
import NameBinding.Json.Skip

namespace NameBinding

namespace Reader

/-! ### Texts in quotes -/

/-- The escape of a control gives back its number. -/
theorem hexEscape_control (n : Nat) (control : n < 0x20) (rest : List Char) :
    hexEscape ('0' :: '0' :: Nat.digitChar (n / 16) :: Nat.digitChar (n % 16) :: rest) =
      .ok (n, rest) := by
  have digits : ∀ n < 0x20, hexValue? (Nat.digitChar (n / 16)) = some (n / 16) ∧
      hexValue? (Nat.digitChar (n % 16)) = some (n % 16) := by decide
  obtain ⟨high, low⟩ := digits n control
  have zero : hexValue? '0' = some 0 := rfl
  have whole : ((0 * 16 + 0) * 16 + n / 16) * 16 + n % 16 = n := by omega
  simp only [hexEscape, zero, high, low, whole]

/-- A character is read from what is written for it. -/
theorem quotedUnit_escape (c : Char) (rest : List Char) :
    quotedUnit (Json.escape c ++ rest) = .ok (some c, rest) := by
  unfold Json.escape
  split
  case h_8 quote backslash _ _ _ _ _ =>
    split
    · rename_i control
      have small : ¬ isLowSurrogate c.toNat = true ∧ ¬ isHighSurrogate c.toNat = true := by
        simp only [isLowSurrogate, isHighSurrogate, Bool.and_eq_true, decide_eq_true_eq]
        omega
      simp only [List.cons_append, List.nil_append, quotedUnit, escaped, numberedChar,
        hexEscape_control c.toNat control rest, bind, Except.bind, if_neg small.1,
        if_neg small.2, Char.ofNat_toNat]
    · rename_i printable
      rw [List.singleton_append, quotedUnit]
      · rw [if_neg printable]
      · exact quote
      · exact backslash
  all_goals rfl

theorem length_le_flatMap_escape (chars : List Char) :
    chars.length ≤ (chars.flatMap Json.escape).length := by
  induction chars with
  | nil => exact Nat.le_refl 0
  | cons c rest inductionHypothesis =>
    have written : 0 < (Json.escape c).length := by
      unfold Json.escape
      split <;> first | (split <;> exact Nat.succ_pos _) | exact Nat.succ_pos _
    rw [List.flatMap_cons, List.length_append, List.length_cons]
    omega

/-- Characters are read up to the closing quote, if there is room for one step more than there are
characters. -/
theorem quotedUnits_escape (chars bound rest : List Char) (room : chars.length < bound.length) :
    quotedUnits bound (chars.flatMap Json.escape ++ '"' :: rest) = .ok (chars, rest) := by
  induction chars generalizing bound with
  | nil =>
    obtain ⟨step, more, rfl⟩ := List.exists_cons_of_length_pos room
    rfl
  | cons c others inductionHypothesis =>
    obtain ⟨step, more, rfl⟩ := List.exists_cons_of_length_pos (Nat.zero_lt_of_lt room)
    rw [List.flatMap_cons, List.append_assoc, quotedUnits, quotedUnit_escape]
    simp only [bind, Except.bind, inductionHypothesis more (Nat.lt_of_succ_lt_succ room)]

/-- A text is read from what is written for it. -/
theorem quoted_escape (text : String) (rest : List Char) :
    quoted (text.toList.flatMap Json.escape ++ '"' :: rest) = .ok (text, rest) := by
  have room : text.toList.length < (text.toList.flatMap Json.escape ++ '"' :: rest).length := by
    have written := length_le_flatMap_escape text.toList
    rw [List.length_append, List.length_cons]
    omega
  rw [quoted, quotedUnits_escape _ _ _ room]
  simp only [bind, Except.bind, String.ofList_toList]

/-! ### Blanks -/

theorem skipBlanks_cons {c : Char} (rest : List Char) (plain : isBlank c = false) :
    skipBlanks (c :: rest) = c :: rest :=
  List.dropWhile_cons_of_neg (by simp [plain])

/-! ### Whole numbers -/

/-- Whether what stands behind digits is no digit. -/
def EndsDigits (rest : List Char) : Prop :=
  ∀ c ∈ rest.head?, isDigit c = false

/-- Whether what stands behind a number cannot be read as a part of it. -/
def EndsNumber (rest : List Char) : Prop :=
  ∀ c ∈ rest.head?, isDigit c = false ∧ c ≠ '.' ∧ c ≠ 'e' ∧ c ≠ 'E'

theorem EndsNumber.endsDigits {rest : List Char} (ends : EndsNumber rest) : EndsDigits rest :=
  fun c next => (ends c next).1

theorem endsNumber_cons {c : Char} (rest : List Char)
    (other : isDigit c = false ∧ c ≠ '.' ∧ c ≠ 'e' ∧ c ≠ 'E') : EndsNumber (c :: rest) := by
  rintro _ ⟨⟩
  exact other

theorem digits_append (written rest : List Char) (all : ∀ c ∈ written, isDigit c = true)
    (ends : EndsDigits rest) : digits (written ++ rest) = (written, rest) := by
  have stop : rest.takeWhile isDigit = [] ∧ rest.dropWhile isDigit = rest := by
    cases rest with
    | nil => exact ⟨rfl, rfl⟩
    | cons c more =>
      have other := ends c rfl
      exact ⟨List.takeWhile_cons_of_neg (by simp [other]),
        List.dropWhile_cons_of_neg (by simp [other])⟩
  rw [digits, List.takeWhile_append_of_pos all, List.dropWhile_append_of_pos all, stop.1, stop.2,
    List.append_nil]

/-- One or more digits are read, and nothing behind them. -/
theorem someDigits_append (atEnd : ReadError) {c : Char} {written rest : List Char}
    (all : ∀ digit ∈ c :: written, isDigit digit = true) (ends : EndsDigits rest) :
    someDigits atEnd (c :: written ++ rest) = .ok (c :: written, rest) := by
  have read := digits_append _ rest all ends
  rw [List.cons_append] at read ⊢
  rw [someDigits, if_pos (all c List.mem_cons_self), read]

theorem plain_of_number {c : Char} (start : c = '-' ∨ isDigit c = true) :
    isBlank c = false ∧ c ≠ ']' ∧ c ≠ 'n' := by
  refine ⟨Bool.eq_false_iff.mpr fun blank => ?_, ?_, ?_⟩
  · simp only [isBlank, Bool.or_eq_true, beq_iff_eq] at blank
    rcases blank with ((rfl | rfl) | rfl) | rfl <;> exact absurd start (by decide)
  · rintro rfl
    exact absurd start (by decide)
  · rintro rfl
    exact absurd start (by decide)

/-- The digits of a whole number: a single zero, or digits that do not begin with one. -/
inductive WholePart : List Char → Prop
  | zero : WholePart ['0']
  | digits {c : Char} {rest : List Char} (nonzero : c ≠ '0')
      (all : ∀ digit ∈ c :: rest, isDigit digit = true) : WholePart (c :: rest)

/-- The digits of a whole number are read, and nothing behind them. -/
theorem wholeDigits_append (atEnd : ReadError) {written rest : List Char}
    (whole : WholePart written) (ends : EndsDigits rest) :
    wholeDigits atEnd (written ++ rest) = .ok (written, rest) := by
  cases whole with
  | zero =>
    cases rest with
    | nil => rfl
    | cons c more =>
      have other : ¬ isDigit c = true := by simp [ends c rfl]
      rw [List.singleton_append, wholeDigits, if_neg other]
  | digits nonzero all =>
    rw [List.cons_append, wholeDigits.eq_2 _ _ fun _ _ same => nonzero (List.cons.inj same).1]
    exact someDigits_append atEnd all ends

theorem isDigit_toDigits (n : Nat) : ∀ c ∈ Nat.toDigits 10 n, isDigit c = true :=
  fun _ member => Nat.isDigit_of_mem_toDigits (by decide) (by decide) member

/-- The digits of a number that is not zero begin with no zero. -/
theorem head_toDigits (n : Nat) (positive : 0 < n) :
    ∃ c rest, Nat.toDigits 10 n = c :: rest ∧ c ≠ '0' := by
  induction n using Nat.strongRecOn with
  | ind n inductionHypothesis =>
    by_cases small : n < 10
    · have nonzero : ∀ n < 10, 0 < n → Nat.digitChar n ≠ '0' := by decide
      exact ⟨_, [], Nat.toDigits_of_lt_base small, nonzero n small positive⟩
    · obtain ⟨c, rest, head, nonzero⟩ := inductionHypothesis (n / 10) (by omega) (by omega)
      refine ⟨c, rest ++ [(n % 10).digitChar], ?_, nonzero⟩
      rw [Nat.toDigits_of_base_le (by decide) (by omega), head, List.cons_append]

theorem wholePart_toDigits (n : Nat) : WholePart (Nat.toDigits 10 n) := by
  have all := isDigit_toDigits n
  rcases Nat.eq_zero_or_pos n with rfl | positive
  · exact .zero
  · obtain ⟨c, rest, head, nonzero⟩ := head_toDigits n positive
    rw [head] at all ⊢
    exact .digits nonzero all

theorem fractionDigits_none (atEnd : ReadError) (rest : List Char) (ends : EndsNumber rest) :
    fractionDigits atEnd rest = .ok (none, rest) := by
  unfold fractionDigits
  split
  · exact absurd rfl (ends '.' rfl).2.1
  · rfl

theorem exponentDigits_none (atEnd : ReadError) (rest : List Char) (ends : EndsNumber rest) :
    exponentDigits atEnd rest = .ok (none, rest) := by
  unfold exponentDigits
  split
  · rfl
  · rename_i c more
    have ⟨_, _, small, great⟩ := ends c rfl
    rw [if_neg (not_or.mpr ⟨small, great⟩)]

/-- The numeral of a whole number has a sign if the number is negative, and has neither point nor
exponent. -/
theorem numeral_digits (atEnd : ReadError) (value : Int) (rest : List Char)
    (ends : EndsNumber rest) :
    numeral atEnd (Json.digits value ++ rest) =
      .ok (⟨decide (value < 0), Nat.toDigits 10 value.natAbs, none, none⟩, rest) := by
  have unsigned : ∀ n more, Nat.toDigits 10 n ++ rest ≠ '-' :: more := by
    intro n more same
    have digit := isDigit_toDigits n
    obtain ⟨c, others, head⟩ := List.exists_cons_of_ne_nil (Nat.toDigits_ne_nil (b := 10) (n := n))
    rw [head, List.cons_append] at same
    obtain rfl := (List.cons.inj same).1
    exact absurd (digit '-' (head ▸ List.mem_cons_self)) (by decide)
  cases value with
  | ofNat n =>
    have sign : decide (Int.ofNat n < 0) = false :=
      decide_eq_false (Int.not_lt.mpr (Int.natCast_nonneg n))
    rw [Json.digits, numeral.eq_2 _ _ (unsigned n), sign]
    have whole := wholeDigits_append atEnd (wholePart_toDigits n) ends.endsDigits
    simp only [bind, Except.bind, whole, fractionDigits_none atEnd rest ends,
      exponentDigits_none atEnd rest ends]
    rfl
  | negSucc n =>
    have sign : decide (Int.negSucc n < 0) = true := decide_eq_true (Int.negSucc_lt_zero n)
    rw [Json.digits, List.cons_append, numeral, sign]
    have whole := wholeDigits_append atEnd (wholePart_toDigits (n + 1)) ends.endsDigits
    simp only [bind, Except.bind, whole, fractionDigits_none atEnd rest ends,
      exponentDigits_none atEnd rest ends]
    rfl

end Reader

namespace Number

/-- Digits are all taken up if the number they make is small enough. -/
theorem absorb_eq (bound start : Nat) (digits : List Char)
    (fits : Nat.ofDigitChars 10 digits start ≤ bound) :
    absorb bound start digits = (Nat.ofDigitChars 10 digits start, []) := by
  induction digits generalizing start with
  | nil => rfl
  | cons c rest inductionHypothesis =>
    have next : start * 10 + digitValue c = 10 * start + (c.toNat - '0'.toNat) := by
      rw [digitValue, Nat.mul_comm]
    rw [Nat.ofDigitChars_cons] at fits ⊢
    have grows : 10 * start + (c.toNat - '0'.toNat) ≤ bound := by
      refine Nat.le_trans ?_ fits
      rw [Nat.ofDigitChars_eq_ofDigitChars_zero]
      exact Nat.le_add_right_of_le (Nat.le_mul_of_pos_left _ (Nat.pow_pos (by decide)))
    rw [absorb]
    simp only [next, if_pos grows]
    exact inductionHypothesis _ fits

/-- A whole number that fits a machine word has the value that was written. -/
theorem ofNumeral_whole (value : Int) (low : -Int.pow 2 63 ≤ value) (high : value < Int.pow 2 64) :
    ofNumeral ⟨decide (value < 0), Nat.toDigits 10 value.natAbs, none, none⟩ =
      .ok (.whole value) := by
  have bounds : Int.pow 2 63 = 9223372036854775808 ∧ Int.pow 2 64 = 18446744073709551616 ∧
      maxWord = 18446744073709551615 ∧ Nat.pow 2 63 = 9223372036854775808 := by decide
  obtain ⟨least, beyond, greatest, leastAbs⟩ := bounds
  rw [least] at low
  rw [beyond] at high
  have kept : absorb maxWord 0 (Nat.toDigits 10 value.natAbs) = (value.natAbs, []) := by
    have whole : Nat.ofDigitChars 10 (Nat.toDigits 10 value.natAbs) 0 = value.natAbs :=
      Nat.ofDigitChars_ten_toDigits
    rw [absorb_eq _ _ _ (by rw [whole, greatest]; omega), whole]
  have given : ofWhole (decide (value < 0)) value.natAbs = .whole value := by
    rw [ofWhole, leastAbs]
    by_cases negative : value < 0
    · rw [decide_eq_true negative, if_neg (by decide), if_pos (by omega)]
      exact congrArg whole (by omega)
    · rw [decide_eq_false negative, if_pos rfl]
      exact congrArg whole (by omega)
  simp only [ofNumeral, kept]
  exact congrArg Except.ok given

end Number

namespace Reader

/-- A whole number that fits a machine word is read from its digits. -/
theorem number_digits (value : Int) (low : -Int.pow 2 63 ≤ value) (high : value < Int.pow 2 64)
    (rest : List Char) (ends : EndsNumber rest) :
    number (Json.digits value ++ rest) = .ok (.whole value, rest) := by
  simp only [number, numeral_digits _ value rest ends, bind, Except.bind,
    Number.ofNumeral_whole value low high]

end Reader

end NameBinding
