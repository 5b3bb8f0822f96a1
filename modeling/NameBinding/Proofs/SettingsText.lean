/-
This file proves that the text of a settings file is read as the settings it was written for. The
text has one line for each setting that is set: a key without quotes, a sign of equality and a
value. Any text made of such lines is read as the members that the lines were written for, if no key
comes twice and every value is read from what is written for it up to the end of its line. What is
left are the values of the settings: a number that fits a machine word, the name of a format in
quotes, and a truth value.
-/

import NameBinding.Proofs.Tokens
import NameBinding.Settings

namespace NameBinding

namespace Toml

/-! ### Lines with a key and a value -/

/-- A key that can be written without quotes. -/
structure IsBareKey (key : List Char) : Prop where
  nonempty : key ≠ []
  chars : ∀ c ∈ key, isKeyChar c = true

/-- Whether a value is read from what is written for it, up to the end of the line. -/
structure ReadsBack (written : List Char) (item : Value) : Prop where
  begins : written.head?.any isBlank = false
  reads : ∀ rest, value maxDepth (written ++ '\n' :: rest) = some (item, '\n' :: rest)

/-- The line of a member. -/
def memberLine (key written : List Char) : List Char :=
  key ++ ' ' :: '=' :: ' ' :: written ++ ['\n']

/-- What holds of a character and not of blanks tells it from them. -/
theorem isBlank_eq_false (ok : Char → Bool) {c : Char} (holds : ok c = true)
    (blanks : ok ' ' = false ∧ ok '\t' = false) : isBlank c = false := by
  refine Bool.eq_false_iff.mpr fun blank => ?_
  simp only [isBlank, Bool.or_eq_true, beq_iff_eq] at blank
  rcases blank with rfl | rfl
  · exact Bool.false_ne_true (blanks.1.symm.trans holds)
  · exact Bool.false_ne_true (blanks.2.symm.trans holds)

/-- A character of a key without quotes begins nothing else. -/
theorem plain_of_isKeyChar {c : Char} (bare : isKeyChar c = true) :
    isBlank c = false ∧ c ≠ '\n' ∧ c ≠ '\r' ∧ c ≠ '#' ∧ c ≠ '[' ∧ c ≠ '"' ∧ c ≠ '\'' := by
  refine ⟨isBlank_eq_false isKeyChar bare (by decide), ?_, ?_, ?_, ?_, ?_, ?_⟩
  all_goals
    rintro rfl
    exact absurd bare (by decide)

theorem begins_memberLine {name : List Char} (bare : IsBareKey name) (written rest : List Char) :
    ∃ c more, memberLine name written ++ rest = c :: more ∧ isKeyChar c = true := by
  obtain ⟨c, more, rfl⟩ := List.exists_cons_of_ne_nil bare.nonempty
  exact ⟨c, _, rfl, bare.chars c List.mem_cons_self⟩

/-- A key without quotes is read up to the blank after it. -/
theorem key_bare {name : List Char} (bare : IsBareKey name) (bound : Nat) (rest : List Char) :
    key (bound + 1) (name ++ ' ' :: '=' :: rest) =
      some (([], String.ofList name), '=' :: rest) := by
  obtain ⟨c, more, rfl⟩ := List.exists_cons_of_ne_nil bare.nonempty
  obtain ⟨blank, _, _, _, _, quote, single⟩ := plain_of_isKeyChar (bare.chars c List.mem_cons_self)
  have start : skipBlanks (c :: more ++ ' ' :: '=' :: rest) = c :: more ++ ' ' :: '=' :: rest :=
    List.dropWhile_cons_of_neg (by simp [blank])
  have taken : (c :: more ++ ' ' :: '=' :: rest).takeWhile isKeyChar = c :: more := by
    rw [List.takeWhile_append_of_pos bare.chars, List.takeWhile_cons_of_neg (by decide),
      List.append_nil]
  have left : (c :: more ++ ' ' :: '=' :: rest).dropWhile isKeyChar = ' ' :: '=' :: rest := by
    rw [List.dropWhile_append_of_pos bare.chars, List.dropWhile_cons_of_neg (by decide)]
  have part : keyPart (c :: more ++ ' ' :: '=' :: rest) =
      some (String.ofList (c :: more), ' ' :: '=' :: rest) := by
    rw [List.cons_append, keyPart.eq_3 _ (fun _ same => quote (List.cons.inj same).1)
      (fun _ same => single (List.cons.inj same).1), ← List.cons_append, taken, left]
  rw [key, start, part]
  rfl

/-- The key and the value of a line are read up to its end. -/
theorem assignment_memberLine {name written : List Char} {item : Value} (bare : IsBareKey name)
    (back : ReadsBack written item) (rest : List Char) :
    assignment (value maxDepth) (memberLine name written ++ rest) =
      some ((([], String.ofList name), item), '\n' :: rest) := by
  have start : skipBlanks (' ' :: (written ++ '\n' :: rest)) = written ++ '\n' :: rest := by
    cases written with
    | nil => rfl
    | cons c more =>
      have plain : isBlank c = false := back.begins
      rw [skipBlanks, List.dropWhile_cons_of_pos (by decide), List.cons_append,
        List.dropWhile_cons_of_neg (by simp [plain])]
  have layout : memberLine name written ++ rest =
      name ++ ' ' :: '=' :: (' ' :: (written ++ '\n' :: rest)) := by
    simp only [memberLine, List.append_assoc, List.cons_append, List.nil_append]
  rw [layout, assignment, maxDepth, key_bare bare]
  simp only [bind, Option.bind, start]
  rw [← maxDepth, back.reads rest]
  rfl

/-- A line adds its member to the document. -/
theorem line_memberLine {name written : List Char} {item : Value} (bare : IsBareKey name)
    (back : ReadsBack written item) (root : Members)
    (fresh : root.lookup (String.ofList name) = none) (rest : List Char) :
    line ⟨root, []⟩ (memberLine name written ++ rest) =
      some (⟨root ++ [(String.ofList name, item)], []⟩, rest) := by
  have read := assignment_memberLine bare back rest
  have added : State.assign ⟨root, []⟩ [] (String.ofList name) item =
      some ⟨root ++ [(String.ofList name, item)], []⟩ := by
    simp only [State.assign, descend, define, add, fresh]
    rfl
  obtain ⟨c, more, begins, key⟩ := begins_memberLine bare written rest
  have noHeading : ∀ others, memberLine name written ++ rest = '[' :: others → False := by
    intro others same
    rw [begins] at same
    exact (plain_of_isKeyChar key).2.2.2.2.1 (List.cons.inj same).1
  rw [line.eq_3 _ _ (fun _ same => noHeading _ same) noHeading, read]
  simp only [bind, Option.bind, added]
  rfl

/-- Nothing is left out before a line. -/
theorem skipLines_memberLine {name : List Char} (bare : IsBareKey name) (written rest : List Char)
    (bound : Nat) :
    skipLines bound (memberLine name written ++ rest) = memberLine name written ++ rest := by
  obtain ⟨c, more, begins, key⟩ := begins_memberLine bare written rest
  obtain ⟨blank, feed, back, comment, _⟩ := plain_of_isKeyChar key
  rw [begins]
  cases bound with
  | zero => rfl
  | succ bound =>
    have start : skipBlanks (c :: more) = c :: more :=
      List.dropWhile_cons_of_neg (by simp [blank])
    have noComment : skipComment (c :: more) = c :: more :=
      skipComment.eq_2 _ fun _ same => comment (List.cons.inj same).1
    have noEnd : lineEnd? (c :: more) = none :=
      lineEnd?.eq_3 _ (fun _ same => feed (List.cons.inj same).1)
        fun _ same => back (List.cons.inj same).1
    rw [skipLines]
    simp only [start, noComment, noEnd]

theorem lines_memberLine {name written : List Char} {item : Value} (bare : IsBareKey name)
    (back : ReadsBack written item) (root : Members)
    (fresh : root.lookup (String.ofList name) = none) (rest : List Char) (bound : Nat) :
    lines (bound + 1) ⟨root, []⟩ (memberLine name written ++ rest) =
      lines bound ⟨root ++ [(String.ofList name, item)], []⟩ rest := by
  have read := line_memberLine bare back root fresh rest
  have nothing := skipLines_memberLine bare written rest (memberLine name written ++ rest).length
  obtain ⟨c, more, begins, key⟩ := begins_memberLine bare written rest
  rw [lines, nothing]
  split
  · rename_i empty
    rw [begins] at empty
    contradiction
  · rename_i same
    rw [begins] at same
    exact absurd (List.cons.inj same).1 (plain_of_isKeyChar key).2.2.2.1
  · rw [read]
    rfl

/-! ### Documents of such lines -/

/-- A member of a document and what is written for its value. -/
structure Written where
  key : String
  text : List Char
  item : Value

namespace Written

/-- Whether a member is read from its line. -/
structure IsRead (member : Written) : Prop where
  bare : IsBareKey member.key.toList
  back : ReadsBack member.text member.item

/-- The line of a member. -/
def line (member : Written) : List Char := memberLine member.key.toList member.text

/-- The member without what is written for it. -/
def plain (member : Written) : String × Value := (member.key, member.item)

end Written

/-- Lines are read one after the other, and their members are added at the end. -/
theorem lines_written (document : List Written) (read : ∀ member ∈ document, member.IsRead)
    (root : Members) (distinct : (root.map Prod.fst ++ document.map Written.key).Nodup)
    (bound : Nat) (room : document.length < bound) :
    lines bound ⟨root, []⟩ (document.flatMap Written.line) =
      some ⟨root ++ document.map Written.plain, []⟩ := by
  induction document generalizing root bound with
  | nil =>
    obtain ⟨bound, rfl⟩ := Nat.exists_eq_add_of_lt room
    rw [List.map_nil, List.append_nil]
    rfl
  | cons member rest inductionHypothesis =>
    obtain ⟨bare, back⟩ := read member List.mem_cons_self
    obtain ⟨bound, rfl⟩ : ∃ less, bound = less + 1 := Nat.exists_eq_add_one.mpr (by omega)
    have fresh : root.lookup (String.ofList member.key.toList) = none := by
      rw [String.ofList_toList, List.lookup_eq_none_iff]
      intro other earlier
      rw [List.nodup_append] at distinct
      have apart := distinct.2.2 other.1 (List.mem_map_of_mem earlier) member.key
        List.mem_cons_self
      simpa using Ne.symm apart
    have later : ((root ++ [(member.key, member.item)]).map Prod.fst ++
        rest.map Written.key).Nodup := by
      rwa [List.map_append, List.append_assoc]
    rw [List.flatMap_cons, Written.line, lines_memberLine bare back root fresh,
      String.ofList_toList, inductionHypothesis (fun other later => read other (.tail _ later)) _
        later bound (Nat.lt_of_succ_lt_succ room), List.append_assoc]
    rfl

theorem length_le_flatMap_line (document : List Written) :
    document.length ≤ (document.flatMap Written.line).length := by
  induction document with
  | nil => exact Nat.le_refl 0
  | cons member rest inductionHypothesis =>
    rw [List.flatMap_cons, List.length_append, List.length_cons, Written.line, memberLine]
    simp only [List.length_append, List.length_cons]
    omega

/-- A document of lines with distinct keys is read as the members it was written for. -/
theorem parse_written (document : List Written) (read : ∀ member ∈ document, member.IsRead)
    (distinct : (document.map Written.key).Nodup) :
    parse (String.ofList (document.flatMap Written.line)) = some (document.map Written.plain) := by
  have noMark : ∀ rest, document.flatMap Written.line ≠ '\ufeff' :: rest := by
    intro rest same
    cases document with
    | nil => contradiction
    | cons member others =>
      have bare := (read member List.mem_cons_self).bare
      obtain ⟨c, more, begins, key⟩ :=
        begins_memberLine bare member.text (others.flatMap Written.line)
      rw [List.flatMap_cons, Written.line, begins] at same
      obtain rfl := (List.cons.inj same).1
      exact absurd key (by decide)
  have room := Nat.lt_succ_of_le (length_le_flatMap_line document)
  rw [parse, String.toList_ofList]
  split
  · rename_i rest same
    exact absurd same (noMark rest)
  · rw [lines_written document read [] distinct _ room]
    rfl

/-! ### Values of one line -/

/-- Decimal digits make the number that `Nat.ofDigitChars` makes of them. -/
theorem ofDigits_eq (digits : List Char) (all : ∀ c ∈ digits, isDigit c = true) :
    ofDigits 10 digits = Nat.ofDigitChars 10 digits 0 := by
  have same : ∀ start, digits.foldl (fun value c => value * 10 + (hexDigit? c).getD 0) start =
      Nat.ofDigitChars 10 digits start := by
    induction digits with
    | nil => exact fun _ => rfl
    | cons c rest inductionHypothesis =>
      intro start
      have digit := all c List.mem_cons_self
      simp only [isDigit, Bool.and_eq_true, decide_eq_true_eq] at digit
      rw [List.foldl_cons, Nat.ofDigitChars_cons, hexDigit?, if_pos digit, Option.getD_some,
        Nat.mul_comm start 10]
      exact inductionHypothesis (fun c later => all c (.tail _ later)) _
  exact same 0

/-- Digits are read up to the end of the line. -/
theorem moreDigits_append (digits rest : List Char) (all : ∀ c ∈ digits, isDigit c = true) :
    moreDigits isDigit (digits ++ '\n' :: rest) = some (digits, '\n' :: rest) := by
  induction digits with
  | nil => rfl
  | cons c others inductionHypothesis =>
    rw [List.cons_append, moreDigits, if_pos (all c List.mem_cons_self),
      inductionHypothesis fun c later => all c (.tail _ later)]
    rfl

/-- Nothing but the end of the line stands directly behind the digits. -/
theorem digits_ne_append {mark : Char} (other : isDigit mark = false) (inside : mark ≠ '\n')
    (front more digits rest : List Char) (allFront : ∀ c ∈ front, isDigit c = true)
    (all : ∀ c ∈ digits, isDigit c = true) : digits ++ '\n' :: rest ≠ front ++ mark :: more := by
  induction front generalizing digits with
  | nil =>
    intro same
    cases digits with
    | nil => exact inside (List.cons.inj same).1.symm
    | cons c digits =>
      obtain rfl := (List.cons.inj same).1
      exact Bool.false_ne_true (other.symm.trans (all c List.mem_cons_self))
  | cons c front inductionHypothesis =>
    intro same
    cases digits with
    | nil =>
      obtain rfl := (List.cons.inj same).1
      exact absurd (allFront '\n' List.mem_cons_self) (by decide)
    | cons d digits =>
      exact inductionHypothesis digits (fun c later => allFront c (.tail _ later))
        (fun c later => all c (.tail _ later)) (List.cons.inj same).2

/-- A number on a line is taken neither for a time of day nor for a day. -/
theorem startsTime_digits (digits rest : List Char) (all : ∀ c ∈ digits, isDigit c = true) :
    startsTime (digits ++ '\n' :: rest) = false := by
  unfold startsTime
  split
  · rename_i a b more same
    refine Bool.eq_false_iff.mpr fun both => ?_
    rw [Bool.and_eq_true] at both
    have front : ∀ c ∈ [a, b], isDigit c = true := by simp [both]
    exact digits_ne_append (by decide) (by decide) [a, b] more digits rest front all same
  · rfl

theorem startsDate_digits (digits rest : List Char) (all : ∀ c ∈ digits, isDigit c = true) :
    startsDate (digits ++ '\n' :: rest) = false := by
  unfold startsDate
  split
  · rename_i a b c d more same
    refine Bool.eq_false_iff.mpr fun four => ?_
    simp only [Bool.and_eq_true] at four
    have front : ∀ x ∈ [a, b, c, d], isDigit x = true := by simp [four]
    exact digits_ne_append (by decide) (by decide) [a, b, c, d] more digits rest front all same
  · rfl

/-- The digits of a whole number are read up to the end of the line. -/
theorem wholeDigits_append {whole : List Char} (written : Reader.WholePart whole)
    (rest : List Char) : wholeDigits (whole ++ '\n' :: rest) = some (whole, '\n' :: rest) := by
  cases written with
  | zero => rfl
  | @digits c others nonzero all =>
    have first : Option.any isDigit (c :: others ++ '\n' :: rest).head? = true :=
      all c List.mem_cons_self
    rw [List.cons_append, wholeDigits.eq_2 _ fun _ same => nonzero (List.cons.inj same).1,
      ← List.cons_append, someDigits, if_pos first]
    exact moreDigits_append _ rest all

/-- A number without point and exponent has the value of its digits, if it fits a machine word. -/
theorem ofDecimal_whole {whole : List Char} {n : Nat} (makes : ofDigits 10 whole = n)
    (fits : n < Nat.pow 2 63) : ofDecimal false whole none none = some (.int n) := by
  have bounds : Int.pow 2 63 = 9223372036854775808 ∧ Nat.pow 2 63 = 9223372036854775808 := by
    decide
  rw [bounds.2] at fits
  rw [ofDecimal, if_pos ⟨rfl, rfl⟩]
  simp only [makes, if_neg Bool.false_ne_true, wholeNumber, bounds.1]
  rw [if_pos (by omega)]

theorem fraction_lineEnd (rest : List Char) :
    fraction ('\n' :: rest) = some (none, '\n' :: rest) := rfl

theorem exponent_lineEnd (rest : List Char) :
    exponent ('\n' :: rest) = some (none, '\n' :: rest) := rfl

theorem decimal_append {whole : List Char} (written : Reader.WholePart whole) {n : Nat}
    (makes : ofDigits 10 whole = n) (fits : n < Nat.pow 2 63) (rest : List Char) :
    decimal false (whole ++ '\n' :: rest) = some (.int n, '\n' :: rest) := by
  unfold decimal
  refine Option.bind_eq_some_iff.mpr ⟨_, wholeDigits_append written rest, ?_⟩
  refine Option.bind_eq_some_iff.mpr ⟨_, fraction_lineEnd rest, ?_⟩
  refine Option.bind_eq_some_iff.mpr ⟨_, exponent_lineEnd rest, ?_⟩
  exact Option.bind_eq_some_iff.mpr ⟨_, ofDecimal_whole makes fits, rfl⟩

theorem number_append {whole : List Char} (written : Reader.WholePart whole) {n : Nat}
    (makes : ofDigits 10 whole = n) (fits : n < Nat.pow 2 63) (rest : List Char) :
    number (whole ++ '\n' :: rest) = some (.int n, '\n' :: rest) := by
  have read := decimal_append written makes fits rest
  cases written with
  | zero => exact read
  | @digits c others nonzero all =>
    have digit : isDigit c = true := all c List.mem_cons_self
    rw [List.cons_append] at read ⊢
    rw [number.eq_6, number.signed.eq_3]
    · exact read
    -- The other ways to begin a number have no digit in front, or a zero.
    all_goals
      intro _ same
      obtain rfl := (List.cons.inj same).1
      first | exact nonzero rfl | exact absurd digit (by decide)

theorem ReadsBack.toDigits (n : Nat) (fits : n < Nat.pow 2 63) :
    ReadsBack (Nat.toDigits 10 n) (.int n) := by
  have all : ∀ c ∈ Nat.toDigits 10 n, isDigit c = true := Reader.isDigit_toDigits n
  have makes : ofDigits 10 (Nat.toDigits 10 n) = n := by
    rw [ofDigits_eq _ all, Nat.ofDigitChars_ten_toDigits]
  have read := number_append (Reader.wholePart_toDigits n) makes fits
  obtain ⟨c, others, head⟩ := List.exists_cons_of_ne_nil (Nat.toDigits_ne_nil (b := 10) (n := n))
  rw [head] at all read ⊢
  have digit := all c List.mem_cons_self
  refine ⟨isBlank_eq_false isDigit digit (by decide), fun rest => ?_⟩
  have noDate := startsDate_digits _ rest all
  have noTime := startsTime_digits _ rest all
  have read := read rest
  rw [List.cons_append] at noDate noTime read ⊢
  rw [maxDepth, value, valueWith.eq_5]
  · rw [if_neg, noDate, noTime, Bool.or_false, if_neg Bool.false_ne_true]
    · exact read
    · rintro (rfl | rfl) <;> exact absurd digit (by decide)
  -- Lists, tables and truth values have no digit in front.
  all_goals
    intros
    subst c
    exact absurd digit (by decide)

theorem ReadsBack.format (format : OutputFormat) :
    ReadsBack ("\"" ++ format.text ++ "\"").toList (.text format.text) where
  begins := by cases format <;> decide
  reads _ := by cases format <;> rfl

theorem ReadsBack.truthValue (truth : Bool) :
    ReadsBack (if truth then "true" else "false").toList (.bool truth) where
  begins := by cases truth <;> decide
  reads _ := by cases truth <;> rfl

end Toml

namespace Settings

open Toml

/-! ### The text of settings -/

/-- The member of a setting, if it is set. -/
def memberOf {α : Type} (key : String) (text : α → String) (item : α → Value)
    (setting : Option α) : List Written :=
  (setting.map fun value => ⟨key, (text value).toList, item value⟩).toList

section

variable {α : Type} (key : String) (text : α → String) (item : α → Value) (setting : Option α)

theorem flatMap_memberOf :
    (memberOf key text item setting).flatMap Written.line =
      (lineOf key (setting.map text)).toList := by
  cases setting with
  | none => rfl
  | some value =>
    have layout : (lineOf key (some (text value))).toList =
        memberLine key.toList (text value).toList := by
      simp only [lineOf, memberLine, String.toList_append, List.append_assoc]
      rfl
    rw [Option.map_some, layout]
    exact List.flatMap_singleton ..

theorem keys_memberOf : ((memberOf key text item setting).map Written.key).Sublist [key] := by
  cases setting with
  | none => exact List.nil_sublist _
  | some value => exact List.Sublist.refl _

theorem lookup_memberOf (other : String) :
    ((memberOf key text item setting).map Written.plain).lookup other =
      if other = key then setting.map item else none := by
  cases setting with
  | none => exact (ite_self none).symm
  | some value =>
    rw [memberOf, Option.map_some, Option.toList_some, List.map_singleton, Written.plain,
      List.lookup_cons, List.lookup_nil]
    by_cases same : other = key
    · rw [if_pos same, beq_iff_eq.mpr same, Option.map_some]
    · rw [if_neg same, beq_eq_false_iff_ne.mpr same]

end

/-- The settings that are set, with what is written for them. -/
def written (settings : Settings) : List Written :=
  memberOf "indent" Nat.repr (fun indent => .int indent) settings.indent ++
    (memberOf "format" (fun format => "\"" ++ format.text ++ "\"") (fun format => .text format.text)
        settings.format ++
      memberOf "annotate" (fun annotate => if annotate then "true" else "false") .bool
        settings.annotate)

theorem keys_written (settings : Settings) :
    (settings.written.map Written.key).Sublist ["indent", "format", "annotate"] := by
  rw [written, List.map_append, List.map_append]
  exact (keys_memberOf ..).append ((keys_memberOf ..).append (keys_memberOf ..))

theorem isRead_written (settings : Settings) (fits : settings.indent.all (· ≤ maxNumber) = true) :
    ∀ member ∈ settings.written, member.IsRead := by
  intro member among
  have named : member.key ∈ ["indent", "format", "annotate"] :=
    settings.keys_written.subset (List.mem_map_of_mem among)
  have bare : IsBareKey member.key.toList := by
    generalize member.key = key at named
    simp only [List.mem_cons, List.not_mem_nil, or_false] at named
    rcases named with rfl | rfl | rfl <;> exact ⟨by decide, List.all_eq_true.mp (by decide)⟩
  refine ⟨bare, ?_⟩
  simp only [written, memberOf, List.mem_append, Option.mem_toList, Option.map_eq_some_iff] at among
  rcases among with ⟨indent, given, rfl⟩ | ⟨format, given, rfl⟩ | ⟨annotate, given, rfl⟩
  · rw [given, Option.all_some, decide_eq_true_eq, maxNumber] at fits
    have digits : (Nat.repr indent).toList = Nat.toDigits 10 indent := String.toList_ofList
    rw [digits]
    exact .toDigits indent (Nat.lt_of_le_of_lt fits (by decide))
  · exact .format format
  · exact .truthValue annotate

theorem text?_eq (settings : Settings) (fits : settings.indent.all (· ≤ maxNumber) = true) :
    settings.text? = some (String.ofList (settings.written.flatMap Written.line)) := by
  rw [text?, if_pos fits, written, List.flatMap_append, List.flatMap_append, flatMap_memberOf,
    flatMap_memberOf, flatMap_memberOf, ← String.toList_append, ← String.toList_append,
    String.ofList_toList, String.append_assoc]

theorem lookup_written (settings : Settings) (key : String) :
    (settings.written.map Written.plain).lookup key =
      (if key = "indent" then settings.indent.map fun indent => .int indent else none).or
        ((if key = "format" then settings.format.map fun format => .text format.text else none).or
          (if key = "annotate" then settings.annotate.map .bool else none)) := by
  rw [written, List.map_append, List.map_append, List.lookup_append, List.lookup_append,
    lookup_memberOf, lookup_memberOf, lookup_memberOf]

theorem setting?_of_lookup {α : Type} (read : Value → Option α) (item : α → Value) {key : String}
    {members : Members} {setting : Option α} (found : members.lookup key = setting.map item)
    (back : ∀ value, read (item value) = some value) :
    setting? read key members = some setting := by
  rw [setting?, found]
  cases setting with
  | none => rfl
  | some value => exact congrArg (Option.map some) (back value)

/-- The text of settings is read as these settings. -/
theorem ofText?_text? (settings : Settings) (text : String) (given : settings.text? = some text) :
    ofText? text = some settings := by
  have fits : settings.indent.all (· ≤ maxNumber) = true := by
    rw [text?, Option.ite_none_right_eq_some] at given
    exact given.1
  have distinct := List.Nodup.sublist settings.keys_written (by decide)
  have parsed := parse_written settings.written (settings.isRead_written fits) distinct
  rw [text?_eq settings fits, Option.some_inj] at given
  rw [given] at parsed
  have indent : setting? indentOf? "indent" (settings.written.map Written.plain) =
      some settings.indent := by
    refine setting?_of_lookup indentOf? (fun indent => .int indent) ?_ fun indent => ?_
    · simp [lookup_written]
    · rw [indentOf?, if_pos (Int.natCast_nonneg indent), Int.toNat_natCast]
  have format : setting? formatOf? "format" (settings.written.map Written.plain) =
      some settings.format := by
    refine setting?_of_lookup formatOf? (fun format => .text format.text) ?_ fun format => ?_
    · simp [lookup_written]
    · cases format <;> rfl
  have annotate : setting? annotateOf? "annotate" (settings.written.map Written.plain) =
      some settings.annotate := by
    refine setting?_of_lookup annotateOf? .bool ?_ fun _ => rfl
    simp [lookup_written]
  simp only [ofText?, parsed, indent, format, annotate, Option.bind_eq_bind, Option.bind_some]
  rfl

end Settings

end NameBinding
