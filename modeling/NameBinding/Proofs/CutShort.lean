/-
This file compares what a reader makes of a text with what it makes of the text when its end is cut
off. If the whole text is read, then without its end either the text is found to end in the middle
of something, or the reader had stopped before the cut and gives the same, with less text left.
Numbers are the exception, since they have no end of their own: cut in the middle a number is
another number, with nothing left behind it. The digits that remain make a number closer to zero, so
it is in bounds if the whole one was.
-/

import NameBinding.Proofs.Layers
import NameBinding.Proofs.Tokens

namespace NameBinding

/-! ### Results for a whole text and for a part of it -/

/-- What is given for a text whose end is cut off, compared with what is given for the whole text.
-/
inductive CutShort {α : Type} (agree : α → α → Prop) :
    Except ReadError α → Except ReadError α → Prop
  /-- Of a text that is not read nothing is said. -/
  | refused (error : ReadError) (part : Except ReadError α) : CutShort agree (.error error) part
  | truncated (whole : Except ReadError α) (inside : Unfinished) :
      CutShort agree whole (.error (.truncated inside))
  | read {whole part : α} (same : agree whole part) : CutShort agree (.ok whole) (.ok part)

/-- The same text with its end cut off. -/
def Behind (lost whole part : List Char) : Prop :=
  whole = part ++ lost

/-- The same, with less text left. -/
def Same {α : Type} (lost : List Char) (whole part : α × List Char) : Prop :=
  whole = (part.1, part.2 ++ lost)

/-- The same with less text left, or something else with no text left. -/
def SameOrSpent {α : Type} (lost : List Char) (whole part : α × List Char) : Prop :=
  part.2 = [] ∨ Same lost whole part

namespace CutShort

variable {α β : Type} {agree later : α → α → Prop} {whole part : Except ReadError α}

theorem bind {agree' : β → β → Prop} {next next' : α → Except ReadError β}
    (cut : CutShort agree whole part)
    (onward : ∀ whole part, agree whole part → CutShort agree' (next whole) (next' part)) :
    CutShort agree' (whole >>= next) (part >>= next') := by
  cases cut with
  | refused error => exact .refused error _
  | truncated whole inside => exact .truncated _ inside
  | read same => exact onward _ _ same

theorem imp (cut : CutShort agree whole part)
    (closer : ∀ whole part, agree whole part → later whole part) : CutShort later whole part := by
  cases cut with
  | refused error => exact .refused error _
  | truncated whole inside => exact .truncated _ inside
  | read same => exact .read (closer _ _ same)

end CutShort

section

variable {α β : Type} {lost : List Char} {whole part : Except ReadError (α × List Char)}

/-- A value that was read before the cut. -/
theorem CutShort.same (value : α) (rest : List Char) :
    CutShort (Same lost) (.ok (value, rest ++ lost)) (.ok (value, rest)) :=
  .read rfl

theorem CutShort.spent (cut : CutShort (Same lost) whole part) :
    CutShort (SameOrSpent lost) whole part :=
  cut.imp fun _ _ => .inr

/-- What is read after something that was read to the end of the part is missing there. -/
theorem CutShort.bind_spent {agree : β → β → Prop} {next next' : α × List Char → Except ReadError β}
    (cut : CutShort (SameOrSpent lost) whole part)
    (ends : ∀ value, ∃ inside, next' (value, []) = .error (.truncated inside))
    (onward : ∀ value rest, CutShort agree (next (value, rest ++ lost)) (next' (value, rest))) :
    CutShort agree (whole >>= next) (part >>= next') := by
  refine cut.bind ?_
  rintro whole ⟨value, rest⟩ (nothing | same)
  · obtain ⟨inside, missing⟩ := ends value
    obtain rfl : rest = [] := nothing
    rw [missing]
    exact .truncated _ inside
  · obtain rfl : whole = (value, rest ++ lost) := same
    exact onward value rest

/-- What is made of a value does not need more text. -/
theorem CutShort.map_spent (cut : CutShort (SameOrSpent lost) whole part) (make : α → β) :
    CutShort (SameOrSpent lost) (whole >>= fun given => .ok (make given.1, given.2))
      (part >>= fun given => .ok (make given.1, given.2)) := by
  refine cut.bind ?_
  rintro whole part (nothing | same)
  · exact .read (.inl nothing)
  · obtain rfl : whole = (part.1, part.2 ++ lost) := same
    exact .read (.inr rfl)

/-- What is read after something that has an end of its own. -/
theorem CutShort.bind_same {agree : β → β → Prop} {next next' : α × List Char → Except ReadError β}
    (cut : CutShort (Same lost) whole part)
    (onward : ∀ value rest, CutShort agree (next (value, rest ++ lost)) (next' (value, rest))) :
    CutShort agree (whole >>= next) (part >>= next') := by
  refine cut.bind ?_
  rintro whole ⟨value, rest⟩ same
  obtain rfl : whole = (value, rest ++ lost) := same
  exact onward value rest

theorem CutShort.bind_behind {agree : β → β → Prop} {next next' : List Char → Except ReadError β}
    {whole part : Except ReadError (List Char)} (cut : CutShort (Behind lost) whole part)
    (onward : ∀ rest, CutShort agree (next (rest ++ lost)) (next' rest)) :
    CutShort agree (whole >>= next) (part >>= next') := by
  refine cut.bind ?_
  rintro whole part same
  obtain rfl : whole = part ++ lost := same
  exact onward part

end

namespace Reader

variable {lost : List Char}

/-! ### Blanks and words -/

/-- Behind its blanks a part has nothing, or it begins there as the whole text does. -/
theorem skipBlanks_cut (part lost : List Char) : skipBlanks part = [] ∨
    ∃ c rest, skipBlanks part = c :: rest ∧ skipBlanks (part ++ lost) = c :: (rest ++ lost) := by
  induction part with
  | nil => exact .inl rfl
  | cons c rest inductionHypothesis =>
    rw [List.cons_append, skipBlanks, skipBlanks, List.dropWhile_cons, List.dropWhile_cons]
    split
    · exact inductionHypothesis
    · exact .inr ⟨c, rest, rfl, rfl⟩

theorem word_cut (expected part : List Char) :
    CutShort (Behind lost) (word expected (part ++ lost)) (word expected part) := by
  induction expected generalizing part with
  | nil => exact .read rfl
  | cons c rest inductionHypothesis =>
    cases part with
    | nil => exact .truncated _ _
    | cons first more =>
      rw [List.cons_append, word, word]
      split
      · exact inductionHypothesis more
      · exact .refused _ _

/-! ### Texts in quotes -/

theorem utf8Size_of_hexValue {c : Char} {n : Nat} (digit : hexValue? c = some n) :
    c.utf8Size = 1 := by
  have small : ∀ last : Char, c ≤ last → last.val ≤ 0x7f → c.utf8Size = 1 := fun last least ascii =>
    Char.utf8Size_eq_one_iff.mpr (UInt32.le_trans least ascii)
  unfold hexValue? at digit
  split at digit
  · exact small '9' (And.right ‹_›) (by decide)
  · split at digit
    · exact small 'f' (And.right ‹_›) (by decide)
    · split at digit
      · exact small 'F' (And.right ‹_›) (by decide)
      · exact nomatch digit

theorem hexEscape_ok {text : List Char} {result : Nat × List Char}
    (read : hexEscape text = .ok result) : ∃ a b c d rest, text = a :: b :: c :: d :: rest ∧
      ∀ digit ∈ [a, b, c, d], digit.utf8Size = 1 := by
  unfold hexEscape at read
  split at read
  · rename_i a b c d rest
    split at read
    · rename_i first second third fourth
      refine ⟨a, b, c, d, rest, rfl, ?_⟩
      simp only [List.forall_mem_cons]
      exact ⟨utf8Size_of_hexValue first, utf8Size_of_hexValue second, utf8Size_of_hexValue third,
        utf8Size_of_hexValue fourth, nofun⟩
    · exact nomatch read
  · split at read <;> exact nomatch read

/-- Fewer than four digits of a number are missed as a text that ends too early. -/
theorem hexEscape_short {part : List Char} (digits : ∀ c ∈ part, c.utf8Size = 1)
    (short : part.length < 4) : hexEscape part = .error (.truncated .text) := by
  have bytes : byteCount part = part.length := by
    have total : ∀ count, part.foldl (fun total c => total + c.utf8Size) count =
        count + part.length := by
      clear short
      induction part with
      | nil => exact fun _ => rfl
      | cons c rest inductionHypothesis =>
        rw [List.forall_mem_cons] at digits
        intro count
        rw [List.foldl_cons, inductionHypothesis digits.2, digits.1, List.length_cons]
        omega
    rw [byteCount, total, Nat.zero_add]
  unfold hexEscape
  split
  · simp only [List.length_cons] at short
    omega
  · rw [bytes, if_pos short]

theorem hexEscape_cut (part : List Char) :
    CutShort (Same lost) (hexEscape (part ++ lost)) (hexEscape part) := by
  cases read : hexEscape (part ++ lost) with
  | error error => exact .refused error _
  | ok result =>
    obtain ⟨a, b, c, d, rest, whole, digits⟩ := hexEscape_ok read
    have front : part <+: part ++ lost := List.prefix_append part lost
    have four : [a, b, c, d] <+: part ++ lost := ⟨rest, whole.symm⟩
    rcases Nat.lt_or_ge part.length 4 with short | long
    · have within := List.prefix_of_prefix_length_le front four (Nat.le_of_lt short)
      rw [hexEscape_short (fun digit member => digits digit (within.subset member)) short]
      exact .truncated _ _
    · obtain ⟨more, rfl⟩ := List.prefix_of_prefix_length_le four front long
      rw [← read]
      show CutShort _ (hexEscape (a :: b :: c :: d :: (more ++ lost)))
        (hexEscape (a :: b :: c :: d :: more))
      unfold hexEscape
      split <;> rename_i same
      · obtain ⟨rfl, rfl, rfl, rfl, rfl⟩ := same
        split
        · exact .same _ _
        · exact .refused _ _
      · exact absurd rfl (same _ _ _ _ _)

theorem lowEscape_cut (high : Nat) (part : List Char) :
    CutShort (Same lost) (lowEscape high (part ++ lost)) (lowEscape high part) := by
  unfold lowEscape
  rcases part with _ | ⟨c, _ | ⟨next, rest⟩⟩
  · exact .truncated _ _
  · by_cases backslash : c = '\\'
    · rw [backslash]
      exact .truncated _ _
    · split
      · exact .refused _ _
      · exact .refused _ _
      · exact absurd (List.cons.inj ‹_›).1 backslash
      · exact .refused _ _
  · rw [List.cons_append, List.cons_append]
    split
    · exact .refused _ _
    · exact .refused _ _
    · rename_i same
      obtain ⟨rfl, tail⟩ := List.cons.inj same
      obtain ⟨rfl, rfl⟩ := List.cons.inj tail
      refine (hexEscape_cut rest).bind_same fun low rest => ?_
      dsimp only
      split
      · exact .same _ _
      · exact .refused _ _
    · exact .refused _ _

theorem numberedChar_cut (part : List Char) :
    CutShort (Same lost) (numberedChar (part ++ lost)) (numberedChar part) := by
  refine (hexEscape_cut part).bind_same fun n rest => ?_
  dsimp only
  split
  · exact .refused _ _
  · split
    · exact lowEscape_cut n rest
    · exact .same _ _

theorem escaped_cut (part : List Char) :
    CutShort (Same lost) (escaped (part ++ lost)) (escaped part) := by
  cases part with
  | nil => exact .truncated _ _
  | cons c rest =>
    by_cases numbered : c = 'u'
    · rw [numbered]
      exact numberedChar_cut rest
    · rw [List.cons_append, escaped.eq_3 _ _ numbered, escaped.eq_3 _ _ numbered]
      cases lettered? c with
      | some letter => exact .same _ _
      | none => exact .refused _ _

theorem quotedUnit_cut (part : List Char) :
    CutShort (Same lost) (quotedUnit (part ++ lost)) (quotedUnit part) := by
  cases part with
  | nil => exact .truncated _ _
  | cons c rest =>
    by_cases quote : c = '"'
    · rw [quote]
      exact .same _ _
    · by_cases backslash : c = '\\'
      · rw [backslash]
        exact (escaped_cut rest).bind_same fun c rest => .same _ _
      · rw [List.cons_append, quotedUnit.eq_4 _ _ quote backslash,
          quotedUnit.eq_4 _ _ quote backslash]
        split
        · exact .refused _ _
        · exact .same _ _

theorem quotedUnits_cut (bound bound' part : List Char) :
    CutShort (Same lost) (quotedUnits bound (part ++ lost)) (quotedUnits bound' part) := by
  induction bound' generalizing bound part with
  | nil => exact .truncated _ _
  | cons step' more' inductionHypothesis =>
    cases bound with
    | nil => exact .refused _ _
    | cons step more =>
      rw [quotedUnits, quotedUnits]
      refine (quotedUnit_cut part).bind_same fun unit rest => ?_
      cases unit with
      | none => exact .same _ _
      | some c =>
        exact (inductionHypothesis more rest).bind_same fun chars rest => .same _ _

theorem quoted_cut (part : List Char) :
    CutShort (Same lost) (quoted (part ++ lost)) (quoted part) :=
  (quotedUnits_cut _ _ part).bind_same fun _ _ => .same _ _

/-! ### Numbers -/

/-- What stands before the digits of a number. -/
def signChars (negative : Bool) : List Char :=
  if negative then ['-'] else []

/-- Reads a number from behind its sign on. -/
def unsigned (atEnd : ReadError) (negative : Bool) : Reader Numeral := fun text => do
  let (whole, rest) ← wholeDigits atEnd text
  let (fraction, rest) ← fractionDigits atEnd rest
  let (exponent, rest) ← exponentDigits atEnd rest
  .ok (⟨negative, whole, fraction, exponent⟩, rest)

theorem numeral_sign (atEnd : ReadError) (text : List Char) : ∃ negative body,
    text = signChars negative ++ body ∧ numeral atEnd text = unsigned atEnd negative body := by
  by_cases minus : ∃ body, text = '-' :: body
  · obtain ⟨body, rfl⟩ := minus
    exact ⟨true, body, rfl, rfl⟩
  · exact ⟨false, text, rfl, numeral.eq_2 _ _ fun body same => minus ⟨body, same⟩⟩

theorem digits_spec (text : List Char) : text = (digits text).1 ++ (digits text).2 ∧
    (∀ c ∈ (digits text).1, isDigit c = true) ∧ EndsDigits (digits text).2 := by
  refine ⟨List.takeWhile_append_dropWhile.symm, List.all_eq_true.mp List.all_takeWhile, ?_⟩
  intro c first
  have stop := List.head?_dropWhile_not isDigit text
  rw [show (text.dropWhile isDigit).head? = some c from first] at stop
  exact stop

theorem wholeDigits_ok {atEnd : ReadError} {text written rest : List Char}
    (read : wholeDigits atEnd text = .ok (written, rest)) :
    text = written ++ rest ∧ WholePart written ∧ EndsDigits rest := by
  unfold wholeDigits at read
  split at read
  · split at read
    · exact nomatch read
    · rename_i c more other
      obtain ⟨rfl, rfl⟩ := Prod.mk.inj (Except.ok.inj read)
      refine ⟨rfl, .zero, ?_⟩
      rintro _ ⟨⟩
      exact Bool.eq_false_iff.mpr other
  · rename_i noZero
    unfold someDigits at read
    split at read
    · exact nomatch read
    · rename_i c more
      split at read
      · rename_i digit
        obtain ⟨whole, all, ends⟩ := digits_spec (c :: more)
        rw [Except.ok.inj read] at whole all ends
        refine ⟨whole, ?_, ends⟩
        have head : (digits (c :: more)).1 = c :: (digits more).1 :=
          List.takeWhile_cons_of_pos digit
        rw [Except.ok.inj read] at head
        obtain rfl : written = c :: (digits more).1 := head
        by_cases zero : c = '0'
        · -- Behind a leading zero nothing was left, so there is no other digit.
          subst zero
          cases more with
          | nil => exact .zero
          | cons next others => exact absurd rfl (noZero next others)
        · exact .digits zero all
      · exact nomatch read

theorem fractionDigits_ok {atEnd : ReadError} {text rest : List Char}
    (read : fractionDigits atEnd text = .ok (none, rest)) :
    text = rest ∧ ∀ c ∈ rest.head?, c ≠ '.' := by
  unfold fractionDigits at read
  split at read
  · obtain ⟨_, -, given⟩ := bind_eq_ok read
    exact nomatch given
  · rename_i other
    obtain ⟨-, rfl⟩ := Prod.mk.inj (Except.ok.inj read)
    refine ⟨rfl, fun c first point => ?_⟩
    obtain ⟨more, rfl⟩ := List.head?_eq_some_iff.mp first
    exact other more (point ▸ rfl)

theorem exponentDigits_ok {atEnd : ReadError} {text rest : List Char}
    (read : exponentDigits atEnd text = .ok (none, rest)) :
    text = rest ∧ ∀ c ∈ rest.head?, c ≠ 'e' ∧ c ≠ 'E' := by
  unfold exponentDigits at read
  split at read
  · obtain ⟨-, rfl⟩ := Prod.mk.inj (Except.ok.inj read)
    exact ⟨rfl, nofun⟩
  · split at read
    · obtain ⟨_, -, given⟩ := bind_eq_ok read
      exact nomatch given
    · rename_i other
      obtain ⟨-, rfl⟩ := Prod.mk.inj (Except.ok.inj read)
      refine ⟨rfl, ?_⟩
      rintro _ ⟨⟩
      exact not_or.mp other

theorem ofSignificand_ne_whole (negative : Bool) (significand : Nat) (exponent value : Int) :
    Number.ofSignificand negative significand exponent ≠ .ok (.whole value) := by
  intro read
  unfold Number.ofSignificand at read
  split at read
  · exact nomatch Except.ok.inj read
  · exact nomatch read

/-- Only a numeral without point and exponent is a whole number. -/
theorem ofNumeral_plain {numeral : Numeral} {value : Int}
    (given : Number.ofNumeral numeral = .ok (.whole value)) :
    numeral.fraction = none ∧ numeral.exponent = none := by
  simp only [Number.ofNumeral] at given
  cases exponent : numeral.exponent with
  | some power =>
    simp only [exponent, Number.withExponent] at given
    split at given
    · exact absurd given (ofSignificand_ne_whole _ _ _ _)
    · split at given
      · cases given
      · cases Except.ok.inj given
  | none =>
    simp only [exponent] at given
    split at given
    · rename_i whole
      exact ⟨Option.isNone_iff_eq_none.mp whole.1, rfl⟩
    · exact absurd given (ofSignificand_ne_whole _ _ _ _)

/-- A whole number that is read from a text stands at its front, and nothing behind it could be a
part of it. -/
theorem number_ok {text rest : List Char} {value : Int}
    (read : number text = .ok (.whole value, rest)) : ∃ negative written,
      text = signChars negative ++ (written ++ rest) ∧ WholePart written ∧ EndsNumber rest ∧
        Number.ofNumeral ⟨negative, written, none, none⟩ = .ok (.whole value) := by
  obtain ⟨⟨numeral, after⟩, parsed, given⟩ := bind_eq_ok read
  obtain ⟨number, known, last⟩ := bind_eq_ok given
  obtain ⟨rfl, rfl⟩ := Prod.mk.inj (Except.ok.inj last)
  obtain ⟨plain, power⟩ := ofNumeral_plain known
  obtain ⟨negative, body, sign, same⟩ := numeral_sign (.truncated .value) text
  rw [same] at parsed
  obtain ⟨⟨written, behind⟩, digits, parsed⟩ := bind_eq_ok parsed
  obtain ⟨⟨fraction, behind'⟩, point, parsed⟩ := bind_eq_ok parsed
  obtain ⟨⟨exponent, behind''⟩, letter, parsed⟩ := bind_eq_ok parsed
  obtain ⟨rfl, rfl⟩ := Prod.mk.inj (Except.ok.inj parsed)
  dsimp only at plain power
  subst plain power
  obtain ⟨front, whole, ends⟩ := wholeDigits_ok digits
  obtain ⟨rfl, noPoint⟩ := fractionDigits_ok point
  obtain ⟨rfl, noLetter⟩ := exponentDigits_ok letter
  refine ⟨negative, written, ?_, whole, ?_, known⟩
  · rw [sign, front]
  · exact fun c first => ⟨ends c first, noPoint c first, noLetter c first⟩

theorem number_sign (negative : Bool) {written rest : List Char} (whole : WholePart written)
    (ends : EndsNumber rest) : number (signChars negative ++ (written ++ rest)) =
      (Number.ofNumeral ⟨negative, written, none, none⟩ >>= fun value => .ok (value, rest)) := by
  have unsigned : ∀ more, written ++ rest ≠ '-' :: more := by
    intro more same
    cases whole with
    | zero => exact absurd (List.cons.inj same).1 (by decide)
    | digits _ all =>
      obtain rfl := (List.cons.inj same).1
      exact absurd (all '-' List.mem_cons_self) (by decide)
  have digits := wholeDigits_append (.truncated .value) whole ends.endsDigits
  cases negative with
  | true =>
    simp only [number, signChars, if_true, List.singleton_append, numeral, bind, Except.bind,
      digits, fractionDigits_none _ rest ends, exponentDigits_none _ rest ends]
  | false =>
    simp only [number, signChars, Bool.false_eq_true, if_false, List.nil_append,
      numeral.eq_2 _ _ unsigned, bind, Except.bind,
      digits, fractionDigits_none _ rest ends, exponentDigits_none _ rest ends]

theorem wholePart_front {front more : List Char} (whole : WholePart (front ++ more))
    (some : front ≠ []) : WholePart front := by
  obtain ⟨c, rest, rfl⟩ := List.exists_cons_of_ne_nil some
  rw [List.cons_append] at whole
  generalize others : rest ++ more = tail at whole
  cases whole with
  | zero =>
    obtain rfl := (List.append_eq_nil_iff.mp others).1
    exact .zero
  | digits nonzero all =>
    subst others
    exact .digits nonzero fun digit member => all digit (List.mem_append_left more member)

theorem absorb_le {bound start n : Nat} {digits left : List Char}
    (taken : Number.absorb bound start digits = (n, left)) : start ≤ n := by
  induction digits generalizing start with
  | nil => exact Nat.le_of_eq (Prod.mk.inj taken).1
  | cons c rest inductionHypothesis =>
    rw [Number.absorb] at taken
    split at taken
    · have later := inductionHypothesis taken
      omega
    · exact Nat.le_of_eq (Prod.mk.inj taken).1

/-- If all digits are taken up, so are those at the front, and they make a number that is not
greater. -/
theorem absorb_front {bound start n : Nat} {front more : List Char}
    (taken : Number.absorb bound start (front ++ more) = (n, [])) :
    ∃ less, Number.absorb bound start front = (less, []) ∧ less ≤ n := by
  induction front generalizing start with
  | nil => exact ⟨start, rfl, absorb_le taken⟩
  | cons c rest inductionHypothesis =>
    rw [List.cons_append, Number.absorb] at taken
    rw [Number.absorb]
    split at taken
    · rename_i fits
      rw [if_pos fits]
      exact inductionHypothesis taken
    · exact absurd (Prod.mk.inj taken).2 (List.cons_ne_nil _ _)

/-- Digits that do not begin with a zero make a number that is not zero. -/
theorem absorb_pos {bound n : Nat} {c : Char} {rest : List Char} (nonzero : c ≠ '0')
    (digit : isDigit c = true) (taken : Number.absorb bound 0 (c :: rest) = (n, [])) : 0 < n := by
  have value : 0 < Number.digitValue c := by
    rw [isDigit, Bool.and_eq_true, decide_eq_true_eq] at digit
    have least : '0'.toNat ≤ c.toNat := digit.1
    have other : c.toNat ≠ '0'.toNat := fun same => nonzero (Char.toNat_inj.mp same)
    rw [Number.digitValue]
    omega
  rw [Number.absorb] at taken
  split at taken
  · have least := absorb_le taken
    omega
  · exact absurd (Prod.mk.inj taken).2 (List.cons_ne_nil _ _)

/-- Whether a number lies between zero and another one. -/
def CloserToZero (less value : Int) : Prop :=
  (0 ≤ less ∧ less ≤ value) ∨ (value ≤ less ∧ less ≤ 0)

theorem ofNumeral_eq_whole {negative : Bool} {written : List Char} {value : Int} :
    Number.ofNumeral ⟨negative, written, none, none⟩ = .ok (.whole value) ↔
      ∃ n, Number.absorb Number.maxWord 0 written = (n, []) ∧
        Number.ofWhole negative n = .whole value := by
  cases taken : Number.absorb Number.maxWord 0 written with
  | mk n dropped =>
    simp only [Number.ofNumeral, taken]
    cases dropped with
    | nil =>
      rw [if_pos ⟨rfl, rfl⟩]
      constructor
      · exact fun known => ⟨n, rfl, Except.ok.inj known⟩
      · rintro ⟨m, same, known⟩
        rw [(Prod.mk.inj same).1, known]
    | cons c rest =>
      rw [if_neg fun both => Bool.false_ne_true both.2]
      refine iff_of_false (ofSignificand_ne_whole _ _ _ _) ?_
      rintro ⟨m, same, -⟩
      exact absurd (Prod.mk.inj same).2 (List.cons_ne_nil _ _)

/-- The digits at the front of a whole number make one that is closer to zero. -/
theorem ofNumeral_front {negative : Bool} {front more : List Char} {value : Int}
    (whole : WholePart (front ++ more)) (some : front ≠ [])
    (known : Number.ofNumeral ⟨negative, front ++ more, none, none⟩ = .ok (.whole value)) :
    ∃ less, Number.ofNumeral ⟨negative, front, none, none⟩ = .ok (.whole less) ∧
      CloserToZero less value := by
  obtain ⟨n, all, given⟩ := ofNumeral_eq_whole.mp known
  obtain ⟨m, taken, least⟩ := absorb_front all
  cases negative with
  | false =>
    obtain rfl := Number.whole.inj given
    exact ⟨m, ofNumeral_eq_whole.mpr ⟨m, taken, rfl⟩, .inl (by omega)⟩
  | true =>
    rw [Number.ofWhole, if_neg (by decide)] at given
    split at given
    · rename_i bounds
      obtain rfl := Number.whole.inj given
      have positive : 0 < m := by
        cases wholePart_front whole some with
        | zero =>
          -- A zero at the front is the whole number, and there is no negative zero.
          cases more with
          | nil =>
            obtain rfl : 0 = n := (Prod.mk.inj all).1
            exact absurd bounds.1 (Nat.lt_irrefl 0)
          | cons c others =>
            cases whole with
            | digits nonzero _ => exact absurd rfl nonzero
        | digits nonzero each => exact absorb_pos nonzero (each _ List.mem_cons_self) taken
      refine ⟨-m, ofNumeral_eq_whole.mpr ⟨m, taken, ?_⟩, .inr (by omega)⟩
      rw [Number.ofWhole, if_neg (by decide), if_pos ⟨positive, by omega⟩]
    · cases given

/-- If a whole number is read from a text, then without the end of the text it is missing, or it is
read as well, or some of its digits are and nothing is left. -/
theorem number_cut {part rest : List Char} {value : Int}
    (read : number (part ++ lost) = .ok (.whole value, rest)) :
    number part = .error (.truncated .value) ∨
      (∃ less, number part = .ok (.whole less, []) ∧ CloserToZero less value) ∨
      ∃ left, number part = .ok (.whole value, left) ∧ rest = left ++ lost := by
  obtain ⟨negative, written, text, whole, ends, known⟩ := number_ok read
  have fewer : ∀ front more, front ++ more = written → front ≠ [] →
      ∃ less, number (signChars negative ++ front) = .ok (.whole less, []) ∧
        CloserToZero less value := by
    rintro front more rfl some
    obtain ⟨less, given, closer⟩ := ofNumeral_front whole some known
    have read := @number_sign negative front [] (wholePart_front whole some) nofun
    rw [List.append_nil, given] at read
    exact ⟨less, read, closer⟩
  rw [← List.append_assoc] at text
  rcases List.append_eq_append_iff.mp text with ⟨more, front, -⟩ | ⟨left, rfl, behind⟩
  · -- The cut is in the number, or right behind its sign.
    cases negative with
    | false =>
      by_cases none : part = []
      · exact .inl (none ▸ rfl)
      · exact .inr (.inl (fewer part more front.symm none))
    | true =>
      rcases part with _ | ⟨c, digits⟩
      · exact .inl rfl
      · obtain ⟨rfl, behind⟩ := List.cons.inj front
        by_cases none : digits = []
        · exact .inl (none ▸ rfl)
        · exact .inr (.inl (fewer digits more behind.symm none))
  · refine .inr (.inr ⟨left, ?_, behind⟩)
    have ends' : EndsNumber left := fun c first =>
      ends c (by rw [behind, List.head?_append, Option.mem_def.mp first]; rfl)
    rw [List.append_assoc, number_sign negative whole ends', known]
    rfl

/-- A value of the wrong type is not read, so nothing is said of a part of it. -/
theorem wrongType_cut {α : Type} {agree : α × List Char → α × List Char → Prop} (expected : String)
    (input : List Char) (part : Except ReadError (α × List Char)) :
    CutShort agree (wrongType expected input) part := by
  cases read : (wrongType expected input : Except ReadError (α × List Char)) with
  | error error => exact .refused error part
  | ok given => exact absurd read (wrongType_ne_ok expected input given)

/-- A number between two bounds, one on each side of zero. -/
theorem integer_cut {low high : Int} (expected : String) (below : low ≤ 0) (above : 0 ≤ high)
    (part : List Char) : CutShort (SameOrSpent lost) (integer low high expected (part ++ lost))
      (integer low high expected part) := by
  obtain empty | ⟨c, rest, here, whole⟩ := skipBlanks_cut part lost
  · rw [integer, integer, empty]
    exact .truncated _ _
  · rw [integer, integer, here, whole]
    dsimp only
    split
    · cases read : number (c :: (rest ++ lost)) with
      | error error => exact .refused error _
      | ok result =>
        obtain ⟨value | ⟨negative, magnitude⟩, after⟩ := result
        · by_cases between : low ≤ value ∧ value ≤ high
          · have cut := @number_cut lost (c :: rest) after value read
            obtain missing | ⟨less, digits, closer⟩ | ⟨left, same, rfl⟩ := cut
            · rw [missing]
              exact .truncated _ _
            · have within : low ≤ less ∧ less ≤ high := by
                rw [CloserToZero] at closer
                omega
              simp only [digits, bind, Except.bind, if_pos between, if_pos within]
              exact .read (.inl rfl)
            · simp only [same, bind, Except.bind, if_pos between]
              exact .read (.inr rfl)
          · simp only [bind, Except.bind, if_neg between]
            exact .refused _ _
        · exact .refused _ _
    · exact wrongType_cut _ _ _

end Reader

end NameBinding
