/-
This file takes source text apart into tokens. A token is a keyword, a name, a number, a literal or
a sign; blanks and line breaks only stand between tokens. A literal goes up to its closing quote,
whatever it contains, and a word goes on as long as there are letters, digits and underscores. So a
word is one token if what stands behind it is no part of it, and a literal is one in any case.
-/

import NameBinding.Proofs.Tokens

namespace NameBinding

open Reader (isDigit)

/-! ### Tokens -/

/-- The words that are not names. -/
inductive Keyword
  | truth (value : Bool)
  | boolean
  | integer
  | void
  | struct
  | ifWord
  | elseWord
  | whileWord
  | returnWord
  | inputWord
  | dispWord
deriving DecidableEq

/-- The keywords and what they are. -/
def keywords : List (String × Keyword) :=
  [("TRUE", .truth true), ("FALSE", .truth false), ("boolean", .boolean), ("integer", .integer),
    ("void", .void), ("struct", .struct), ("if", .ifWord), ("else", .elseWord),
    ("while", .whileWord), ("return", .returnWord), ("input", .inputWord), ("disp", .dispWord)]

/-- The keyword that a word is, if it is one. -/
def keyword? (word : String) : Option Keyword :=
  keywords.lookup word

/-- A part of a source text that has no parts itself. -/
inductive Token
  | keyword (word : Keyword)
  | name (text : String)
  | number (value : Nat)
  | literal (text : String)
  | sign (c : Char)
deriving DecidableEq

/-- The letters, the digits and the underscore. -/
def isWordChar (c : Char) : Bool :=
  c.isAlpha || isDigit c || c == '_'

/-- The token that a word is. -/
def Token.ofWord (word : List Char) : Token :=
  match keyword? (String.ofList word) with
  | some found => .keyword found
  | none =>
    if word.head?.any isDigit then .number (Nat.ofDigitChars 10 word 0)
    else .name (String.ofList word)

/-- Whether a text is a name: a word that is no keyword and does not begin with a digit. -/
def isName (text : String) : Bool :=
  !text.toList.isEmpty && text.toList.all isWordChar && !text.toList.head?.any isDigit &&
    (keyword? text).isNone

/-- Whether characters close a literal that is open, and do so at their end only. -/
def closesLiteral : List Char → Bool
  | [] => false
  | ['"'] => true
  | '\\' :: _ :: rest => closesLiteral rest
  | c :: rest => c != '"' && c != '\\' && c != '\n' && closesLiteral rest

/-- Whether a text is a literal. -/
def isLiteral (text : String) : Bool :=
  match text.toList with
  | '"' :: rest => closesLiteral rest
  | _ => false

/-! ### From text to tokens -/

/-- What is open at a place in a source text, with the characters it has so far. -/
inductive Lexing
  | between
  | word (taken : List Char)
  | literal (taken : List Char)
  /-- A literal in which a backslash was the last character. -/
  | escape (taken : List Char)
deriving DecidableEq

namespace Lexing

/-- What a character opens, and the token that it is by itself. -/
def start (c : Char) : Lexing × List Token :=
  if c = ' ' ∨ c = '\n' then (between, [])
  else if c = '"' then (literal [c], [])
  else if isWordChar c then (word [c], [])
  else (between, [.sign c])

/-- What is open after one more character, and the tokens that were completed. -/
def step : Lexing → Char → Lexing × List Token
  | between, c => start c
  | word taken, c =>
    if isWordChar c then (word (taken ++ [c]), [])
    else ((start c).1, .ofWord taken :: (start c).2)
  | literal taken, c =>
    if c = '"' then (between, [.literal (String.ofList (taken ++ [c]))])
    else if c = '\\' then (escape (taken ++ [c]), [])
    else (literal (taken ++ [c]), [])
  | escape taken, c => (literal (taken ++ [c]), [])

/-- What is open after some characters, and the tokens that were completed. -/
def run : Lexing → List Char → Lexing × List Token
  | state, [] => (state, [])
  | state, c :: rest =>
    (((state.step c).1.run rest).1, (state.step c).2 ++ ((state.step c).1.run rest).2)

/-- The token that the end of the text completes. -/
def finish : Lexing → List Token
  | word taken => [.ofWord taken]
  | _ => []

theorem run_append (state : Lexing) (text rest : List Char) :
    state.run (text ++ rest) =
      (((state.run text).1.run rest).1, (state.run text).2 ++ ((state.run text).1.run rest).2) := by
  induction text generalizing state with
  | nil => rfl
  | cons c more inductionHypothesis =>
    rw [List.cons_append, run, inductionHypothesis, run, List.append_assoc]

end Lexing

/-- The tokens of a text, if something is open before it. -/
def lexFrom (state : Lexing) (text : List Char) : List Token :=
  (state.run text).2 ++ (state.run text).1.finish

/-- The tokens of a text. -/
def lex (text : List Char) : List Token :=
  lexFrom .between text

theorem lexFrom_append (state : Lexing) (text rest : List Char) :
    lexFrom state (text ++ rest) = (state.run text).2 ++ lexFrom (state.run text).1 rest := by
  rw [lexFrom, Lexing.run_append, lexFrom, List.append_assoc]

/-! ### Words and literals -/

/-- Whether what stands behind a word is not part of it. -/
def EndsWord (rest : List Char) : Prop :=
  ∀ c ∈ rest.head?, isWordChar c = false

theorem endsWord_text (text : String) (rest : List Char)
    (other : (text.toList.head?.any fun c => !isWordChar c) = true) :
    EndsWord (text.toList ++ rest) := by
  cases head : text.toList with
  | nil =>
    rw [head] at other
    exact nomatch other
  | cons c more =>
    rw [head] at other
    rintro _ ⟨⟩
    simpa using other

/-- A text that leaves nothing open has its tokens whatever follows. -/
theorem lex_text (text : String) (tokens : List Token)
    (closed : Lexing.between.run text.toList = (.between, tokens)) (rest : List Char) :
    lex (text.toList ++ rest) = tokens ++ lex rest := by
  rw [lex, lexFrom_append, closed, lex]

theorem run_word (taken more : List Char) (all : ∀ c ∈ more, isWordChar c = true) :
    (Lexing.word taken).run more = (.word (taken ++ more), []) := by
  induction more generalizing taken with
  | nil => rw [Lexing.run, List.append_nil]
  | cons c rest inductionHypothesis =>
    rw [List.forall_mem_cons] at all
    rw [Lexing.run, Lexing.step, if_pos all.1]
    simp only [inductionHypothesis _ all.2, List.append_assoc, List.singleton_append,
      List.nil_append]

theorem lexFrom_word (taken : List Char) {rest : List Char} (ends : EndsWord rest) :
    lexFrom (.word taken) rest = .ofWord taken :: lex rest := by
  cases rest with
  | nil => rfl
  | cons c more =>
    have other : ¬ isWordChar c = true := by simp [ends c rfl]
    simp only [lex, lexFrom, Lexing.run, Lexing.step, if_neg other, List.cons_append]

/-- A word is one token. -/
theorem lex_word {word : List Char} (some : word ≠ []) (all : ∀ c ∈ word, isWordChar c = true)
    {rest : List Char} (ends : EndsWord rest) :
    lex (word ++ rest) = .ofWord word :: lex rest := by
  obtain ⟨c, more, rfl⟩ := List.exists_cons_of_ne_nil some
  rw [List.forall_mem_cons] at all
  have opens : Lexing.start c = (.word [c], []) := by
    have other : ¬ (c = ' ' ∨ c = '\n') ∧ c ≠ '"' := by
      refine ⟨?_, ?_⟩
      · rintro (rfl | rfl) <;> exact absurd all.1 (by decide)
      · rintro rfl
        exact absurd all.1 (by decide)
    rw [Lexing.start, if_neg other.1, if_neg other.2, if_pos all.1]
  have run : Lexing.between.run (c :: more) = (.word (c :: more), []) := by
    rw [Lexing.run, Lexing.step, opens]
    simp only [run_word [c] more all.2, List.singleton_append, List.nil_append]
  rw [lex, lexFrom_append, run, lexFrom_word _ ends, List.nil_append]

theorem lex_name {name : String} (given : isName name = true) {rest : List Char}
    (ends : EndsWord rest) : lex (name.toList ++ rest) = .name name :: lex rest := by
  simp only [isName, Bool.and_eq_true, Bool.not_eq_true', List.isEmpty_eq_false_iff,
    List.all_eq_true, Option.isNone_iff_eq_none] at given
  obtain ⟨⟨⟨some, all⟩, letter⟩, word⟩ := given
  rw [lex_word some all ends, Token.ofWord, String.ofList_toList, word]
  simp only [letter, Bool.false_eq_true, if_false]

theorem lex_keyword (word : String) {keyword : Keyword} (known : keyword? word = some keyword)
    (all : (!word.toList.isEmpty && word.toList.all isWordChar) = true) {rest : List Char}
    (ends : EndsWord rest) : lex (word.toList ++ rest) = .keyword keyword :: lex rest := by
  simp only [Bool.and_eq_true, Bool.not_eq_true', List.isEmpty_eq_false_iff,
    List.all_eq_true] at all
  rw [lex_word all.1 all.2 ends, Token.ofWord, String.ofList_toList, known]

theorem run_literal (taken rest : List Char) (closes : closesLiteral rest = true) :
    (Lexing.literal taken).run rest = (.between, [.literal (String.ofList (taken ++ rest))]) := by
  fun_induction closesLiteral rest generalizing taken with
  | case1 => exact nomatch closes
  | case2 => rfl
  | case3 c rest inductionHypothesis =>
    have backslash : '\\' ≠ '"' := by decide
    rw [Lexing.run, Lexing.step, if_neg backslash, if_pos rfl, Lexing.run, Lexing.step]
    rw [inductionHypothesis _ closes]
    simp only [List.append_assoc, List.cons_append, List.nil_append]
  | case4 c rest _ _ inductionHypothesis =>
    simp only [Bool.and_eq_true, bne_iff_ne] at closes
    obtain ⟨⟨⟨quote, backslash⟩, -⟩, closes⟩ := closes
    rw [Lexing.run, Lexing.step, if_neg quote, if_neg backslash]
    simp only [inductionHypothesis (taken ++ [c]) closes, List.append_assoc, List.singleton_append,
      List.nil_append]

/-- A literal is one token, whatever follows. -/
theorem lex_literal {text : String} (given : isLiteral text = true) (rest : List Char) :
    lex (text.toList ++ rest) = .literal text :: lex rest := by
  rw [isLiteral.eq_def] at given
  split at given
  case h_1 more quoted =>
    have run : Lexing.between.run text.toList = (.between, [.literal text]) := by
      have closed := run_literal ['"'] more given
      rw [List.singleton_append, ← quoted, String.ofList_toList] at closed
      rw [quoted]
      exact closed
    exact lex_text text _ run rest
  case h_2 => exact nomatch given

/-! ### Numbers -/

/-- The tokens of a number. -/
def tokensOfInt : Int → List Token
  | .ofNat n => [.number n]
  | .negSucc n => [.sign '-', .number (n + 1)]

/-- No keyword begins with a digit. -/
theorem keyword?_of_digit {word : String} (digit : word.toList.head?.any isDigit = true) :
    keyword? word = none := by
  have letters : ∀ pair ∈ keywords, pair.1.toList.head?.any isDigit = false := by decide
  refine List.lookup_eq_none_iff.mpr fun pair known => ?_
  rw [bne_iff_ne]
  rintro rfl
  exact nomatch digit.symm.trans (letters pair known)

theorem lex_nat (n : Nat) {rest : List Char} (ends : EndsWord rest) :
    lex (n.repr.toList ++ rest) = .number n :: lex rest := by
  have digits : ∀ c ∈ Nat.toDigits 10 n, isDigit c = true := Reader.isDigit_toDigits n
  have some : Nat.toDigits 10 n ≠ [] := Nat.toDigits_ne_nil
  have all : ∀ c ∈ Nat.toDigits 10 n, isWordChar c = true := fun c member => by
    simp [isWordChar, digits c member]
  have first : (Nat.toDigits 10 n).head?.any isDigit = true := by
    obtain ⟨c, more, head⟩ := List.exists_cons_of_ne_nil some
    rw [head] at digits ⊢
    exact digits c List.mem_cons_self
  have word : keyword? (String.ofList (Nat.toDigits 10 n)) = none :=
    keyword?_of_digit (by rwa [String.toList_ofList])
  have value : Nat.ofDigitChars 10 (Nat.toDigits 10 n) 0 = n := Nat.ofDigitChars_ten_toDigits
  rw [Nat.repr, String.toList_ofList, lex_word some all ends, Token.ofWord, word]
  simp only [first, if_true, value]

theorem lex_int (value : Int) {rest : List Char} (ends : EndsWord rest) :
    lex (value.repr.toList ++ rest) = tokensOfInt value ++ lex rest := by
  cases value with
  | ofNat n => exact lex_nat n ends
  | negSucc n =>
    have sign : (Int.negSucc n).repr = "-" ++ (n + 1).repr := rfl
    rw [sign, String.toList_append, List.append_assoc, lex_text "-" [.sign '-'] rfl,
      lex_nat (n + 1) ends]
    rfl

end NameBinding
