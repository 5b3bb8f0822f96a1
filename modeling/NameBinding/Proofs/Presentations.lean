/-
This file says how the document of a tree may be written. Blanks may stand between any two signs,
and a character may be written by an escape. A record is an object with its members in any order and
unknown ones among them, or a list of its members in order; a member that is filled in when it is
missing may be left out, at the end of the list. An alternative without anything to it is its name,
or an object with its name and null. What may be written is said one level of objects and lists at a
time, as it is read, and the values of unknown members take no level. The compact text of a document
is one of those that may be written for it.
-/

import NameBinding.Proofs.Passing
import NameBinding.Proofs.Reread

namespace NameBinding

open Reader (Blanks Spaced Separator AnyValue EndsNumber)

namespace Presentation

/-! ### Texts in quotes -/

/-- A number as four digits in base sixteen, in letters of either case. -/
inductive Hexadecimal : Nat → List Char → Prop
  | mk {a b c d : Char} {first second third fourth : Nat} (one : Reader.hexValue? a = some first)
      (two : Reader.hexValue? b = some second) (three : Reader.hexValue? c = some third)
      (four : Reader.hexValue? d = some fourth) :
      Hexadecimal (((first * 16 + second) * 16 + third) * 16 + fourth) [a, b, c, d]

/-- A character between quotes: as itself, by a letter, by its number or by the two numbers of a
pair. -/
inductive QuotedChar : Char → List Char → Prop
  | plain {c : Char} (printable : ¬ c.toNat < 0x20) (other : c ≠ '"' ∧ c ≠ '\\') : QuotedChar c [c]
  | lettered {letter c : Char} (known : Reader.lettered? letter = some c) :
    QuotedChar c ['\\', letter]
  | numbered {c : Char} {digits : List Char} (number : Hexadecimal c.toNat digits) :
      QuotedChar c ('\\' :: 'u' :: digits)
  | paired {c : Char} {high low : Nat} {first second : List Char}
      (leading : Hexadecimal high first) (trailing : Hexadecimal low second)
      (upper : 0xd800 ≤ high ∧ high ≤ 0xdbff) (lower : 0xdc00 ≤ low ∧ low ≤ 0xdfff)
      (value : c.toNat = 0x10000 + (high - 0xd800) * 0x400 + (low - 0xdc00)) :
      QuotedChar c ('\\' :: 'u' :: (first ++ '\\' :: 'u' :: second))

/-- Characters with the closing quote behind them. -/
inductive Quoted : List Char → List Char → Prop
  | done : Quoted [] ['"']
  | unit {c : Char} {chars written rest : List Char} (head : QuotedChar c written)
      (tail : Quoted chars rest) : Quoted (c :: chars) (written ++ rest)

/-- A key or a name from behind its opening quote on, up to a colon behind it. -/
inductive Label (name : String) : List Char → Prop
  | mk {written colon : List Char} (text : Quoted name.toList written)
      (spaced : Spaced ':' colon) : Label name (written ++ colon)

/-! ### Lists and objects -/

/-- Null, or what else may stand in its place. -/
inductive OrNull (given : Json → List Char → Prop) : Json → List Char → Prop
  | null : OrNull given .null ['n', 'u', 'l', 'l']
  | given {value : Json} {written : List Char} (some : given value written) :
      OrNull given value written

/-- The value of a member. One that may stay away may be null. -/
def MemberValue (inside : Form → Json → List Char → Prop) (member : Member) :
    Json → List Char → Prop :=
  match member.absence with
  | .allowed => OrNull (inside member.form)
  | _ => inside member.form

/-- The rest of a list, from its first item on or from behind one. -/
inductive Items (item : Json → List Char → Prop) : Bool → List Json → List Char → Prop
  | done {first : Bool} {blanks : List Char} (given : Blanks blanks) :
      Items item first [] (blanks ++ [']'])
  | item {first : Bool} {separator written rest : List Char} {value : Json} {values : List Json}
      (before : Separator first separator) (head : item value written)
      (tail : Items item false values rest) :
      Items item first (value :: values) (separator ++ (written ++ rest))

/-- Which members of a record are written, and as what. One that is filled in with its value may be
left out, and one that is missing may be written as null if it may stay away. -/
inductive Selection : List Member → List (String × Json) → List (String × Json) → Prop
  | nil : Selection [] [] []
  | written {member : Member} {value : Json} {members : List Member}
      {values given : List (String × Json)} (present : value ≠ .null)
      (tail : Selection members values given) :
      Selection (member :: members) ((member.key, value) :: values) ((member.key, value) :: given)
  | filled {member : Member} {value : Json} {members : List Member}
      {values given : List (String × Json)} (default : member.absence = .filled value)
      (tail : Selection members values given) :
      Selection (member :: members) ((member.key, value) :: values) given
  | missing {member : Member} {members : List Member} {values given : List (String × Json)}
      (allowed : member.absence = .allowed) (tail : Selection members values given) :
      Selection (member :: members) values given
  | null {member : Member} {members : List Member} {values given : List (String × Json)}
      (allowed : member.absence = .allowed) (tail : Selection members values given) :
      Selection (member :: members) values ((member.key, .null) :: given)

/-- The rest of an object, from its first member on or from behind one, and the members of the
record among those that are written there. -/
inductive Entries (inside : Form → Json → List Char → Prop) (members : List Member) :
    Bool → List (String × Json) → List Char → Prop
  | done {first : Bool} {blanks : List Char} (given : Blanks blanks) :
      Entries inside members first [] (blanks ++ ['\x7d'])
  | known {first : Bool} {separator label written rest : List Char} {member : Member}
      {value : Json} {given : List (String × Json)} (before : Separator first separator)
      (belongs : member ∈ members) (name : Label member.key label)
      (head : MemberValue inside member value written)
      (tail : Entries inside members false given rest) :
      Entries inside members first ((member.key, value) :: given)
        (separator ++ '"' :: (label ++ (written ++ rest)))
  | unknown {first : Bool} {separator label written rest : List Char} {key : String}
      {given : List (String × Json)} (before : Separator first separator)
      (other : ∀ member ∈ members, member.key ≠ key) (name : Label key label)
      (value : AnyValue written) (tail : Entries inside members false given rest) :
      Entries inside members first given (separator ++ '"' :: (label ++ (written ++ rest)))

/-- The rest of a record that is written as a list. It ends where all members that are left may be
left out. -/
inductive Listed (inside : Form → Json → List Char → Prop) :
    Bool → List Member → List (String × Json) → List Char → Prop
  | done {first : Bool} {members : List Member} {values : List (String × Json)}
      {blanks : List Char} (left : Selection members values []) (given : Blanks blanks) :
      Listed inside first members values (blanks ++ [']'])
  | member {first : Bool} {separator written rest : List Char} {member : Member} {value : Json}
      {members : List Member} {values : List (String × Json)} (before : Separator first separator)
      (head : MemberValue inside member value written) (present : value ≠ .null)
      (tail : Listed inside false members values rest) :
      Listed inside first (member :: members) ((member.key, value) :: values)
        (separator ++ (written ++ rest))
  | null {first : Bool} {separator rest : List Char} {member : Member} {members : List Member}
      {values : List (String × Json)} (before : Separator first separator)
      (allowed : member.absence = .allowed) (tail : Listed inside false members values rest) :
      Listed inside first (member :: members) values
        (separator ++ (['n', 'u', 'l', 'l'] ++ rest))

/-- What belongs to the name of an alternative, and the document of both. -/
inductive Belonging (inside : Form → Json → List Char → Prop) (name : String) :
    Payload → Json → List Char → Prop
  | none : Belonging inside name .none (.str name) ['n', 'u', 'l', 'l']
  | value {form : Form} {value : Json} {written : List Char} (given : inside form value written) :
      Belonging inside name (.value form) (.obj [(name, value)]) written
  | optional {form : Form} {value : Json} {written : List Char}
      (given : OrNull (inside form) value written) :
      Belonging inside name (.optional form) (.obj [(name, value)]) written
  | members {form : RecordForm} {value : Json} {written : List Char}
      (given : inside (.record form) value written) :
      Belonging inside name (.members form) (.obj [(name, value)]) written

/-! ### All forms -/

/-- What may be written for a document without opening an object or a list. -/
inductive Plain : Form → Json → List Char → Prop
  | text {value : String} {written : List Char} (given : Quoted value.toList written) :
      Plain .text (.str value) ('"' :: written)
  | int32 {value : Int} (low : -Int.pow 2 31 ≤ value) (high : value ≤ Int.pow 2 31 - 1) :
      Plain .int32 (.int value) (Json.digits value)
  | uint32 {value : Int} (low : 0 ≤ value) (high : value ≤ Int.pow 2 32 - 1) :
      Plain .uint32 (.int value) (Json.digits value)
  | bare {form : ChoiceForm} {name : String} {written : List Char}
      (known : form.find? name = some ⟨name, .none⟩) (given : Quoted name.toList written) :
      Plain (.choice form) (.str name) ('"' :: written)

/-- What may be written for a document as an object or as a list. -/
inductive Nested (inside : Form → Json → List Char → Prop) : Form → Json → List Char → Prop
  | list {item : Form} {values : List Json} {written : List Char}
      (items : Items (inside item) true values written) :
      Nested inside (.list item) (.arr values) ('[' :: written)
  | object {form : RecordForm} {values given selected : List (String × Json)}
      {written : List Char} (entries : Entries inside form.members true given written)
      (order : given.Perm selected) (selection : Selection form.members values selected) :
      Nested inside (.record form) (.obj values) ('\x7b' :: written)
  | listed {form : RecordForm} {values : List (String × Json)} {written : List Char}
      (items : Listed inside true form.members values written) :
      Nested inside (.record form) (.obj values) ('[' :: written)
  | named {form : ChoiceForm} {name : String} {payload : Payload} {document : Json}
      {blanks label written after : List Char} (known : form.find? name = some ⟨name, payload⟩)
      (before : Blanks blanks) (text : Label name label)
      (given : Belonging inside name payload document written) (behind : Blanks after) :
      Nested inside (.choice form) document
        ('\x7b' :: (blanks ++ '"' :: (label ++ (written ++ (after ++ ['\x7d'])))))

end Presentation

/-- What may be written for a document of a form if objects and lists stand inside one another at
most so deep, not counting the values of unknown members. -/
def Presents : Nat → Form → Json → List Char → Prop
  | 0 => Presentation.Plain
  | levels + 1 => fun form document written =>
    Presentation.Plain form document written ∨
      Presentation.Nested (Presents levels) form document written

/-- Whether a text is one of those that may be written for a program. -/
def Program.IsPresented (program : Program) (text : String) : Prop :=
  ∃ before written after, Blanks before ∧ Blanks after ∧
    Presents 127 (.record .program) program.toJson written ∧
      text = String.ofList (before ++ (written ++ after))

namespace Presents

variable {levels : Nat} {form : Form} {document : Json} {written : List Char}

theorem plain (given : Presentation.Plain form document written) :
    Presents levels form document written := by
  cases levels with
  | zero => exact given
  | succ levels => exact .inl given

theorem nested (given : Presentation.Nested (Presents levels) form document written) :
    Presents (levels + 1) form document written :=
  .inr given

end Presents

/-! ### The compact text -/

namespace Presentation

theorem blanks_nil : Blanks [] :=
  nofun

theorem spaced_sign (sign : Char) : Spaced sign [sign] :=
  .mk blanks_nil blanks_nil

/-- A character is written compactly in one of the ways it may be written. -/
theorem quotedChar_escape (c : Char) : QuotedChar c (Json.escape c) := by
  unfold Json.escape
  split
  case h_8 quote backslash _ _ _ _ _ =>
    split
    · rename_i control
      have digits : ∀ n < 0x20, Reader.hexValue? (Nat.digitChar (n / 16)) = some (n / 16) ∧
          Reader.hexValue? (Nat.digitChar (n % 16)) = some (n % 16) := by decide
      obtain ⟨high, low⟩ := digits c.toNat control
      have value : ((0 * 16 + 0) * 16 + c.toNat / 16) * 16 + c.toNat % 16 = c.toNat := by omega
      have number : Hexadecimal (((0 * 16 + 0) * 16 + c.toNat / 16) * 16 + c.toNat % 16)
          ['0', '0', Nat.digitChar (c.toNat / 16), Nat.digitChar (c.toNat % 16)] :=
        .mk rfl rfl high low
      rw [value] at number
      exact .numbered number
    · exact .plain ‹_› ⟨quote, backslash⟩
  all_goals exact .lettered rfl

theorem quoted_escape (chars : List Char) : Quoted chars (chars.flatMap Json.escape ++ ['"']) := by
  induction chars with
  | nil => exact .done
  | cons c rest inductionHypothesis =>
    rw [List.flatMap_cons, List.append_assoc]
    exact .unit (quotedChar_escape c) inductionHypothesis

theorem label_escape (name : String) :
    Label name (name.toList.flatMap Json.escape ++ ['"'] ++ [':']) :=
  .mk (quoted_escape name.toList) (spaced_sign ':')

theorem items_compact {item : Json → List Char → Prop} {values : List Json}
    (all : ∀ value ∈ values, item value value.compact) :
    Items item true values (Json.compactItems values ++ [']']) := by
  have later : ∀ others : List Json, (∀ value ∈ others, item value value.compact) →
      Items item false others ((others.flatMap fun value => ',' :: value.compact) ++ [']']) := by
    intro others all
    induction others with
    | nil => exact .done blanks_nil
    | cons value more inductionHypothesis =>
      rw [List.forall_mem_cons] at all
      rw [List.flatMap_cons, List.append_assoc]
      have items := Items.item (.comma (spaced_sign ',')) all.1 (inductionHypothesis all.2)
      exact items
  cases values with
  | nil => exact .done blanks_nil
  | cons value others =>
    rw [List.forall_mem_cons] at all
    rw [Json.compactItems_cons, List.append_assoc]
    have items := Items.item (.first blanks_nil) all.1 (later others all.2)
    exact items

section Members

variable {inside : Form → Json → List Char → Prop} {members : List Member}

/-- A member that is written compactly, and what follows it. -/
theorem entries_compactMember {first : Bool} {separator rest : List Char}
    {pair : String × Json} {given : List (String × Json)} (before : Separator first separator)
    (known : ∃ member ∈ members, member.key = pair.1 ∧
      MemberValue inside member pair.2 pair.2.compact)
    (tail : Entries inside members false given rest) :
    Entries inside members first (pair :: given)
      (separator ++ (Json.compactMember pair ++ rest)) := by
  obtain ⟨key, value⟩ := pair
  obtain ⟨member, belongs, rfl, head⟩ := known
  have entries := Entries.known before belongs (label_escape member.key) head tail
  simpa only [Json.compactMember, Json.quote, List.cons_append, List.append_assoc,
    List.nil_append] using entries

theorem entries_compact {given : List (String × Json)}
    (known : ∀ pair ∈ given, ∃ member ∈ members, member.key = pair.1 ∧
      MemberValue inside member pair.2 pair.2.compact) :
    Entries inside members true given (Json.compactMembers given ++ ['\x7d']) := by
  have later : ∀ others : List (String × Json), (∀ pair ∈ others, ∃ member ∈ members,
      member.key = pair.1 ∧ MemberValue inside member pair.2 pair.2.compact) →
        Entries inside members false others
          ((others.flatMap fun pair => ',' :: Json.compactMember pair) ++ ['\x7d']) := by
    intro others known
    induction others with
    | nil => exact .done blanks_nil
    | cons pair more inductionHypothesis =>
      rw [List.forall_mem_cons] at known
      rw [List.flatMap_cons, List.append_assoc]
      exact entries_compactMember (.comma (spaced_sign ',')) known.1
        (inductionHypothesis known.2)
  cases given with
  | nil => exact .done blanks_nil
  | cons pair others =>
    rw [List.forall_mem_cons] at known
    rw [Json.compactMembers_cons, List.append_assoc]
    exact entries_compactMember (.first blanks_nil) known.1 (later others known.2)

/-- All members that are there are written, and the others are missing. -/
theorem selection_all {values : List (String × Json)}
    (given : HasMembers (fun member value => Conforms member.form value) members values) :
    Selection members values values := by
  induction given with
  | nil => exact .nil
  | cons head tail inductionHypothesis => exact .written head.ne_null inductionHypothesis
  | missing allowed tail inductionHypothesis => exact .missing allowed inductionHypothesis

theorem memberValue_given {member : Member} {value : Json} {written : List Char}
    (given : inside member.form value written) : MemberValue inside member value written := by
  rw [MemberValue.eq_def]
  cases member.absence with
  | allowed => exact .given given
  | _ => exact given

end Members

theorem belonging_given {inside : Form → Json → List Char → Prop} {name : String}
    {payload : Payload} {inner : Form} {value : Json} {written : List Char}
    (belongs : payload.form? = some inner) (given : inside inner value written) :
    Belonging inside name payload (.obj [(name, value)]) written := by
  cases payload with
  | none => exact nomatch belongs
  | value form =>
    obtain rfl := Option.some.inj belongs
    exact .value given
  | optional form =>
    obtain rfl := Option.some.inj belongs
    exact .optional (.given given)
  | members form =>
    obtain rfl := Option.some.inj belongs
    exact .members given

/-- The compact text of an alternative with something to it. -/
theorem nested_named {inside : Form → Json → List Char → Prop} {form : ChoiceForm} {name : String}
    {payload : Payload} {value : Json} (known : form.find? name = some ⟨name, payload⟩)
    (given : Belonging inside name payload (.obj [(name, value)]) value.compact) :
    Nested inside (.choice form) (.obj [(name, value)]) (Json.obj [(name, value)]).compact := by
  have nested := Nested.named known blanks_nil (label_escape name) given blanks_nil
  have text := Reader.compact_tagged name value []
  rw [List.append_nil] at text
  rw [text]
  simpa only [List.append_assoc, List.cons_append, List.nil_append] using nested

end Presentation

open Presentation

/-- The compact text of a document may be written for it if it is not too deep. -/
theorem presents_compact (levels : Nat) (form : Form) (document : Json)
    (conforms : Conforms form document) (fits : document.depth ≤ levels) :
    Presents levels form document document.compact := by
  induction levels generalizing form document with
  | zero =>
    cases conforms with
    | text value => exact .text (quoted_escape value.toList)
    | int32 low high => exact .int32 low high
    | uint32 low high => exact .uint32 low high
    | bare known => exact .bare known (quoted_escape _)
    | list | record | tagged | unset =>
      rw [Json.depth] at fits
      exact absurd fits (Nat.not_succ_le_zero _)
  | succ levels inductionHypothesis =>
    cases conforms with
    | text value => exact .plain (.text (quoted_escape value.toList))
    | int32 low high => exact .plain (.int32 low high)
    | uint32 low high => exact .plain (.uint32 low high)
    | bare known => exact .plain (.bare known (quoted_escape _))
    | list all =>
      rw [Json.depth, Nat.add_le_add_iff_right] at fits
      rw [Json.compact]
      exact .nested (.list (items_compact fun value member => inductionHypothesis _ _
        (all value member) (Nat.le_trans (Json.depth_le_depthOfItems member) fits)))
    | record all =>
      rw [Json.depth, Nat.add_le_add_iff_right] at fits
      rw [Json.compact]
      refine .nested (.object (entries_compact fun pair given => ?_) (.refl _) (selection_all all))
      obtain ⟨member, known, key, conforms⟩ := all.member_of_mem pair given
      exact ⟨member, known, key, memberValue_given (inductionHypothesis _ _ conforms
        (Nat.le_trans (Json.depth_le_depthOfMembers given) fits))⟩
    | tagged known inside given =>
      rw [Json.depth, Json.depthOfMembers, Json.depthOfMembers, Nat.max_zero,
        Nat.add_le_add_iff_right] at fits
      exact .nested (nested_named known (belonging_given inside
        (inductionHypothesis _ _ given fits)))
    | unset known => exact .nested (nested_named known (.optional .null))

/-- The text of a program that is not too deep is one of those that may be written for it. -/
theorem Program.isPresented_text (program : Program) (fits : program.toJson.depth ≤ 127) :
    program.IsPresented program.text := by
  refine ⟨[], _, [], blanks_nil, blanks_nil,
    presents_compact 127 (.record .program) program.toJson program.toJson_conforms fits, ?_⟩
  rw [List.nil_append, List.append_nil]
  rfl

end NameBinding
