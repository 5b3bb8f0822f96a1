/-
This file proves that reading gives the document of a tree whichever way it was written. A text that
may be written for a document begins in a way that tells it from the end of a list and from null,
and is read up to its own end. So the items of a list, the entries of an object and the members in a
list are gone through by induction on how they were written, and the levels of objects and lists by
induction on their number.
-/

import NameBinding.Proofs.Presentations
import NameBinding.Proofs.Unannotated

namespace NameBinding

namespace Reader

open Presentation

/-! ### Reading texts in quotes -/

theorem hexEscape_hexadecimal {n : Nat} {digits : List Char} (given : Hexadecimal n digits)
    (rest : List Char) : hexEscape (digits ++ rest) = .ok (n, rest) := by
  obtain ⟨one, two, three, four⟩ := given
  simp only [List.cons_append, List.nil_append, hexEscape, one, two, three, four]

/-- The number of a character is no half of a pair. -/
theorem not_surrogate (c : Char) :
    ¬ isLowSurrogate c.toNat = true ∧ ¬ isHighSurrogate c.toNat = true := by
  have valid : c.toNat < 0xd800 ∨ 0xdfff < c.toNat ∧ c.toNat < 0x110000 := c.valid
  simp only [isLowSurrogate, isHighSurrogate, Bool.and_eq_true, decide_eq_true_eq]
  omega

theorem numberedChar_hexadecimal {c : Char} {digits : List Char}
    (number : Hexadecimal c.toNat digits) (rest : List Char) :
    numberedChar (digits ++ rest) = .ok (c, rest) := by
  have ⟨low, high⟩ := not_surrogate c
  simp only [numberedChar, hexEscape_hexadecimal number, bind, Except.bind, if_neg low, if_neg high,
    Char.ofNat_toNat]

theorem numberedChar_pair {c : Char} {high low : Nat} {first second : List Char}
    (leading : Hexadecimal high first) (trailing : Hexadecimal low second)
    (upper : 0xd800 ≤ high ∧ high ≤ 0xdbff) (lower : 0xdc00 ≤ low ∧ low ≤ 0xdfff)
    (value : c.toNat = 0x10000 + (high - 0xd800) * 0x400 + (low - 0xdc00)) (rest : List Char) :
    numberedChar (first ++ '\\' :: 'u' :: (second ++ rest)) = .ok (c, rest) := by
  have leads : ¬ isLowSurrogate high = true ∧ isHighSurrogate high = true := by
    simp only [isLowSurrogate, isHighSurrogate, Bool.and_eq_true, decide_eq_true_eq]
    omega
  have trails : isLowSurrogate low = true := by
    simp only [isLowSurrogate, Bool.and_eq_true, decide_eq_true_eq]
    exact lower
  simp only [numberedChar, hexEscape_hexadecimal leading, bind, Except.bind, if_neg leads.1,
    if_pos leads.2, lowEscape, hexEscape_hexadecimal trailing, if_pos trails, ofSurrogates, ← value,
    Char.ofNat_toNat]

theorem quotedUnit_char {c : Char} {written : List Char} (given : QuotedChar c written)
    (rest : List Char) : quotedUnit (written ++ rest) = .ok (some c, rest) := by
  cases given with
  | plain printable other =>
    rw [List.singleton_append, quotedUnit]
    · rw [if_neg printable]
    · exact other.1
    · exact other.2
  | @lettered letter c known =>
    have other : letter ≠ 'u' := by
      rintro rfl
      cases known
    show (escaped (letter :: rest) >>= _) = _
    rw [escaped.eq_3 _ _ other, known]
    rfl
  | numbered number =>
    show (numberedChar (_ ++ rest) >>= _) = _
    rw [numberedChar_hexadecimal number]
    rfl
  | paired leading trailing upper lower value =>
    rw [List.cons_append, List.cons_append, List.append_assoc]
    show (numberedChar (_ ++ '\\' :: 'u' :: (_ ++ rest)) >>= _) = _
    rw [numberedChar_pair leading trailing upper lower value]
    rfl

theorem quotedUnits_chars {chars written : List Char} (given : Quoted chars written)
    (bound rest : List Char) (room : written.length ≤ bound.length) :
    quotedUnits bound (written ++ rest) = .ok (chars, rest) := by
  induction given generalizing bound with
  | done =>
    obtain ⟨step, more, rfl⟩ := List.exists_cons_of_length_pos room
    rfl
  | @unit c chars written others head tail inductionHypothesis =>
    have some : 0 < written.length := by cases head <;> exact Nat.succ_pos _
    rw [List.length_append] at room
    obtain ⟨step, more, rfl⟩ := List.exists_cons_of_length_pos (show 0 < bound.length by omega)
    rw [List.length_cons] at room
    rw [List.append_assoc, quotedUnits, quotedUnit_char head]
    simp only [bind, Except.bind, inductionHypothesis more (by omega)]

/-- A text is read up to its closing quote, whatever escapes it is written with. -/
theorem quoted_text {text : String} {written : List Char} (given : Quoted text.toList written)
    (rest : List Char) : quoted (written ++ rest) = .ok (text, rest) := by
  have read := quotedUnits_chars given (written ++ rest) rest (by
    rw [List.length_append]
    exact Nat.le_add_right _ _)
  rw [quoted, read]
  simp only [bind, Except.bind, String.ofList_toList]

theorem colon_spaced {written : List Char} (spaced : Spaced ':' written) (rest : List Char) :
    ∃ blanks, Blanks blanks ∧ colon (written ++ rest) = .ok (blanks ++ rest) := by
  obtain ⟨before, after⟩ := spaced
  refine ⟨_, after, ?_⟩
  rw [List.append_assoc, List.cons_append, colon, skipBlanks_sign before (by decide)]
  rfl

theorem label_reads {name : String} {label : List Char} (given : Label name label)
    (rest : List Char) : ∃ behind blanks, Blanks blanks ∧
      quoted (label ++ rest) = .ok (name, behind) ∧ colon behind = .ok (blanks ++ rest) := by
  obtain ⟨text, spaced⟩ := given
  obtain ⟨blanks, given, read⟩ := colon_spaced spaced rest
  rw [List.append_assoc]
  exact ⟨_, blanks, given, quoted_text text _, read⟩

/-! ### Where values begin -/

/-- Whether a text begins with no blank and with nothing that could be taken for the end of a list.
-/
def BeginsItem (written : List Char) : Prop :=
  ∃ c more, written = c :: more ∧ isBlank c = false ∧ c ≠ ']'

/-- Whether a text begins as an item does, and with nothing that could be taken for null. -/
def BeginsValue (written : List Char) : Prop :=
  ∃ c more, written = c :: more ∧ isBlank c = false ∧ c ≠ ']' ∧ c ≠ 'n'

theorem BeginsValue.item {written : List Char} (begins : BeginsValue written) :
    BeginsItem written :=
  let ⟨c, more, head, plain, item, _⟩ := begins
  ⟨c, more, head, plain, item⟩

theorem BeginsItem.length_pos {written : List Char} (begins : BeginsItem written) :
    0 < written.length := by
  obtain ⟨c, more, rfl, -⟩ := begins
  exact Nat.succ_pos _

theorem beginsValue_digits (value : Int) : BeginsValue (Json.digits value) := by
  obtain ⟨c, more, head, start⟩ := Json.digits_head value
  exact ⟨c, more, head, plain_of_number start⟩

theorem beginsValue_plain {form : Form} {document : Json} {written : List Char}
    (given : Plain form document written) : BeginsValue written := by
  cases given with
  | text | bare => exact ⟨'"', _, rfl, by decide⟩
  | int32 | uint32 => exact beginsValue_digits _

theorem beginsValue_presents {levels : Nat} {form : Form} {document : Json} {written : List Char}
    (given : Presents levels form document written) : BeginsValue written := by
  cases levels with
  | zero => exact beginsValue_plain given
  | succ levels =>
    rcases given with plain | nested
    · exact beginsValue_plain plain
    · cases nested <;> exact ⟨_, _, rfl, by decide⟩

/-! ### Reading what is written -/

/-- Whether a reader gives a document for a text, with blanks before it and whatever follows. -/
def Reads (read : Reader Json) (document : Json) (written : List Char) : Prop :=
  ∀ blanks rest, Blanks blanks → EndsNumber rest →
    read (blanks ++ (written ++ rest)) = .ok (document, rest)

/-- Whether all that may be written further inside is read there. -/
structure Follows (read : Form → Reader Json) (inside : Form → Json → List Char → Prop) :
    Prop where
  begins : ∀ {form document written}, inside form document written → BeginsValue written
  reads : ∀ {form document written}, inside form document written →
    Reads (read form) document written

theorem listStep_item {first : Bool} {separator written : List Char}
    (before : Separator first separator) (begins : BeginsItem written) (rest : List Char) :
    listStep first (separator ++ (written ++ rest)) = .ok (.item (written ++ rest)) := by
  obtain ⟨c, more, rfl, plain, item⟩ := begins
  cases before with
  | first blanks =>
    rw [List.cons_append, listStep, skipBlanks_sign blanks plain]
    split
    · exact absurd ‹_› (List.cons_ne_nil _ _)
    · exact absurd (List.cons.inj ‹_›).1 item
    · rename_i same
      obtain ⟨rfl, rfl⟩ := List.cons.inj same
      rfl
  | comma spaced =>
    obtain ⟨before, after⟩ := spaced
    rw [List.append_assoc, List.cons_append, List.cons_append, listStep,
      skipBlanks_sign before (by decide)]
    have comma : ',' ≠ ']' := by decide
    split
    · exact absurd ‹_› (List.cons_ne_nil _ _)
    · exact absurd (List.cons.inj ‹_›).1 comma
    · rename_i same
      obtain ⟨rfl, rfl⟩ := List.cons.inj same
      rw [if_neg Bool.false_ne_true, if_pos rfl, skipBlanks_sign after plain]
      split
      · exact absurd ‹_› (List.cons_ne_nil _ _)
      · exact absurd (List.cons.inj ‹_›).1 item
      · rfl

theorem listStep_end (first : Bool) {blanks : List Char} (given : Blanks blanks)
    (rest : List Char) : listStep first (blanks ++ ']' :: rest) = .ok (.done rest) := by
  rw [listStep, skipBlanks_sign given (by decide)]
  rfl

theorem objectStep_key {first : Bool} {separator : List Char} (before : Separator first separator)
    (rest : List Char) : objectStep first (separator ++ '"' :: rest) = .ok (.key rest) := by
  cases before with
  | first blanks =>
    rw [objectStep, skipBlanks_sign blanks (by decide)]
    rfl
  | comma spaced =>
    obtain ⟨before, after⟩ := spaced
    rw [List.append_assoc, List.cons_append, objectStep, skipBlanks_sign before (by decide)]
    have quote : isBlank '"' = false := by decide
    simp only [skipBlanks_sign after quote, Bool.false_eq_true, if_false]

theorem objectStep_end (first : Bool) {blanks : List Char} (given : Blanks blanks)
    (rest : List Char) : objectStep first (blanks ++ '\x7d' :: rest) = .ok (.done rest) := by
  rw [objectStep, skipBlanks_sign given (by decide)]
  rfl

section Inside

variable {read : Form → Reader Json} {inside : Form → Json → List Char → Prop}

theorem orNull_reads (follows : Follows read inside) {form : Form} {value : Json}
    {written : List Char} (given : OrNull (inside form) value written) :
    Reads (orNull (read form)) value written := by
  intro blanks rest before ends
  cases given with
  | null =>
    rw [List.cons_append, orNull, skipBlanks_sign before (by decide)]
    rfl
  | given some =>
    have read := follows.reads some [] rest nofun ends
    obtain ⟨c, more, rfl, plain, -, other⟩ := follows.begins some
    rw [List.nil_append] at read
    rw [List.cons_append] at read ⊢
    unfold orNull
    rw [skipBlanks_sign before plain]
    split
    · exact absurd (List.cons.inj ‹_›).1 other
    · exact read

theorem beginsItem_orNull (follows : Follows read inside) {form : Form} {value : Json}
    {written : List Char} (given : OrNull (inside form) value written) : BeginsItem written := by
  cases given with
  | null => exact ⟨'n', _, rfl, by decide⟩
  | given some => exact (follows.begins some).item

theorem memberValue_reads (follows : Follows read inside) {member : Member} {value : Json}
    {written : List Char} (given : MemberValue inside member value written) :
    Reads (memberValue read member) value written := by
  rw [MemberValue.eq_def] at given
  rw [memberValue.eq_def]
  cases absence : member.absence with
  | allowed =>
    rw [absence] at given
    exact orNull_reads follows given
  | _ =>
    rw [absence] at given
    exact follows.reads given

theorem beginsItem_memberValue (follows : Follows read inside) {member : Member} {value : Json}
    {written : List Char} (given : MemberValue inside member value written) :
    BeginsItem written := by
  rw [MemberValue.eq_def] at given
  cases absence : member.absence with
  | allowed =>
    rw [absence] at given
    exact beginsItem_orNull follows given
  | _ =>
    rw [absence] at given
    exact (follows.begins given).item

/-! ### Reading lists -/

theorem endsNumber_items {item : Json → List Char → Prop} {values : List Json}
    {written : List Char} (given : Items item false values written) (rest : List Char) :
    EndsNumber (written ++ rest) := by
  cases given with
  | done given =>
    rw [List.append_assoc]
    exact given.endsNumber (endsNumber_cons _ (by decide))
  | item before =>
    rw [List.append_assoc]
    exact before.endsNumber _

/-- The items of a list are read up to its end. -/
theorem items_reads (follows : Follows read inside) {item : Form} {first : Bool}
    {values : List Json} {written : List Char} (given : Items (inside item) first values written)
    (bound rest : List Char) (room : (written ++ rest).length ≤ bound.length) :
    items (read item) bound first (written ++ rest) = .ok (values, rest) := by
  induction given generalizing bound with
  | done given =>
    simp only [List.length_append, List.length_cons] at room
    obtain ⟨step, more, rfl⟩ := List.exists_cons_of_length_pos (show 0 < bound.length by omega)
    rw [List.append_assoc, items, List.singleton_append, listStep_end _ given]
    rfl
  | item before head tail inductionHypothesis =>
    have begins := follows.begins head
    have value := follows.reads head [] _ blanks_nil (endsNumber_items tail rest)
    have some := begins.item.length_pos
    simp only [List.length_append] at room
    obtain ⟨step, more, rfl⟩ := List.exists_cons_of_length_pos (show 0 < bound.length by omega)
    rw [List.length_cons] at room
    have others := inductionHypothesis more (by rw [List.length_append]; omega)
    rw [List.nil_append] at value
    rw [List.append_assoc, List.append_assoc, items, listStep_item before begins.item]
    simp only [bind, Except.bind, value, others]

/-! ### Reading records -/

theorem endsNumber_entries {members : List Member} {given : List (String × Json)}
    {written : List Char} (entries : Entries inside members false given written)
    (rest : List Char) : EndsNumber (written ++ rest) := by
  cases entries with
  | done given =>
    rw [List.append_assoc]
    exact given.endsNumber (endsNumber_cons _ (by decide))
  | known before | unknown before =>
    rw [List.append_assoc]
    exact before.endsNumber _

/-- An object is read up to its end, and of its members those that belong to the record are kept. -/
theorem membersOfObject_reads (follows : Follows read inside) {form : RecordForm} {first : Bool}
    {given : List (String × Json)} {written : List Char}
    (entries : Entries inside form.members first given written) (bound rest : List Char)
    (found : List (String × Json)) (distinct : ((found ++ given).map Prod.fst).Nodup)
    (room : (written ++ rest).length ≤ bound.length) :
    membersOfObject read form.members bound first found (written ++ rest) =
      .ok (found ++ given, rest) := by
  induction entries generalizing bound found with
  | done given =>
    simp only [List.length_append, List.length_cons] at room
    obtain ⟨step, more, rfl⟩ := List.exists_cons_of_length_pos (show 0 < bound.length by omega)
    rw [List.append_assoc, List.singleton_append, membersOfObject, objectStep_end _ given,
      List.append_nil]
    rfl
  | @known first separator label written others member value given before belongs name head tail
      inductionHypothesis =>
    simp only [List.length_append, List.length_cons] at room
    obtain ⟨step, more, rfl⟩ := List.exists_cons_of_length_pos (show 0 < bound.length by omega)
    rw [List.length_cons] at room
    obtain ⟨behind, blanks, after, quotes, colons⟩ := label_reads name (written ++ (others ++ rest))
    have unread : found.lookup member.key = none := by
      rw [List.map_append, List.nodup_append] at distinct
      refine List.lookup_eq_none_iff.mpr fun other earlier => ?_
      have differ := distinct.2.2 other.1 (List.mem_map_of_mem earlier) member.key
        List.mem_cons_self
      simpa [bne_iff_ne] using differ.symm
    have reads := memberValue_reads follows head blanks _ after (endsNumber_entries tail rest)
    have more := inductionHypothesis more (found ++ [(member.key, value)])
      (by rwa [List.append_assoc]) (by rw [List.length_append]; omega)
    rw [List.append_assoc, List.cons_append, List.append_assoc, List.append_assoc, membersOfObject,
      objectStep_key before]
    simp only [bind, Except.bind, quotes, form.find?_key belongs, unread, colons, reads, more,
      List.append_assoc, List.singleton_append]
  | @unknown first separator label written others key given before other name value tail
      inductionHypothesis =>
    simp only [List.length_append, List.length_cons] at room
    obtain ⟨step, more, rfl⟩ := List.exists_cons_of_length_pos (show 0 < bound.length by omega)
    rw [List.length_cons] at room
    obtain ⟨behind, blanks, after, quotes, colons⟩ := label_reads name (written ++ (others ++ rest))
    have absent : (form.members.find? fun member => member.key == key) = none :=
      List.find?_eq_none.mpr fun member belongs => by simpa using other member belongs
    have passes := value.skip after (endsNumber_entries tail rest)
    have more := inductionHypothesis more found distinct (by rw [List.length_append]; omega)
    rw [List.append_assoc, List.cons_append, List.append_assoc, List.append_assoc, membersOfObject,
      objectStep_key before]
    simp only [bind, Except.bind, quotes, absent, colons, passes, more]

theorem lookup_perm {found given : List (String × Json)} (order : found.Perm given)
    (distinct : (found.map Prod.fst).Nodup) (key : String) :
    found.lookup key = given.lookup key := by
  induction order with
  | nil => rfl
  | cons pair _ inductionHypothesis =>
    rw [List.map_cons, List.nodup_cons] at distinct
    rw [List.lookup_cons, List.lookup_cons, inductionHypothesis distinct.2]
  | swap pair other rest =>
    simp only [List.map_cons, List.nodup_cons, List.mem_cons, not_or] at distinct
    rw [List.lookup_cons, List.lookup_cons, List.lookup_cons, List.lookup_cons]
    by_cases first : key = pair.1
    · have second : (key == other.1) = false := by simpa [first] using Ne.symm distinct.1.1
      simp only [second]
    · have unequal : (key == pair.1) = false := by simpa using first
      simp only [unequal]
  | trans order _ first second =>
    rw [first distinct, second ((order.map Prod.fst).nodup_iff.mp distinct)]

/-- The keys that are written are keys of the record. -/
theorem selection_sublist {members : List Member} {values given : List (String × Json)}
    (selection : Selection members values given) :
    (given.map Prod.fst).Sublist (members.map Member.key) := by
  induction selection with
  | nil => exact .slnil
  | written _ _ inductionHypothesis | null _ _ inductionHypothesis =>
    exact inductionHypothesis.cons_cons _
  | filled _ _ inductionHypothesis | missing _ _ inductionHypothesis =>
    exact inductionHypothesis.cons _

/-- A key is looked up behind another one of the same record. -/
theorem lookup_later {member next : Member} {others : List Member} {value : Json}
    (given : List (String × Json)) (distinct : ((member :: others).map Member.key).Nodup)
    (later : next ∈ others) :
    ((member.key, value) :: given).lookup next.key = given.lookup next.key := by
  rw [List.map_cons, List.nodup_cons] at distinct
  have differ : (next.key == member.key) = false := by
    rw [beq_eq_false_iff_ne]
    exact fun equal => distinct.1 (equal ▸ List.mem_map_of_mem later)
  rw [List.lookup_cons, differ]

theorem lookup_absent {member : Member} {others : List Member} {values given : List (String × Json)}
    (tail : Selection others values given)
    (distinct : ((member :: others).map Member.key).Nodup) : given.lookup member.key = none := by
  rw [List.map_cons, List.nodup_cons] at distinct
  refine List.lookup_eq_none_iff.mpr fun pair known => ?_
  have key := (selection_sublist tail).subset (List.mem_map_of_mem known)
  rw [bne_iff_ne]
  exact fun equal => distinct.1 (equal ▸ key)

/-- The members that are written, and what is filled in for the others, are those of the record. -/
theorem assemble_selection {members : List Member} {values given found : List (String × Json)}
    (selection : Selection members values given) (distinct : (members.map Member.key).Nodup)
    (same : ∀ member ∈ members, found.lookup member.key = given.lookup member.key) :
    assemble found members = .ok values := by
  induction selection with
  | nil => rfl
  | @written member value others values given present tail inductionHypothesis =>
    rw [List.forall_mem_cons, List.lookup_cons_self] at same
    have more := inductionHypothesis (List.nodup_cons.mp distinct).2 fun next later =>
      (same.2 next later).trans (lookup_later given distinct later)
    rw [assemble, same.1]
    split
    case h_1 null _ => exact absurd (Option.some.inj null) present
    case h_2 written same _ =>
      obtain rfl := Option.some.inj same
      simp only [bind, Except.bind, more]
    case h_3 missing => cases missing
  | @filled member value others values given default tail inductionHypothesis =>
    rw [List.forall_mem_cons, lookup_absent tail distinct] at same
    rw [assemble, same.1, default]
    simp only [absent, bind, Except.bind,
      inductionHypothesis (List.nodup_cons.mp distinct).2 same.2]
  | @missing member others values given allowed tail inductionHypothesis =>
    rw [List.forall_mem_cons, lookup_absent tail distinct] at same
    rw [assemble, same.1, allowed]
    simp only [absent, bind, Except.bind,
      inductionHypothesis (List.nodup_cons.mp distinct).2 same.2]
  | @null member others values given allowed tail inductionHypothesis =>
    rw [List.forall_mem_cons, List.lookup_cons_self] at same
    have more := inductionHypothesis (List.nodup_cons.mp distinct).2 fun next later =>
      (same.2 next later).trans (lookup_later given distinct later)
    rw [assemble, same.1, allowed]
    simp only [bind, Except.bind, more]

/-- The members that are left out at the end of a list are filled in. -/
theorem membersLeft_selection {members : List Member} {values given : List (String × Json)}
    (selection : Selection members values given) (none : given = []) (expected : String)
    (count : Nat) : membersLeft expected count members = .ok values := by
  induction selection generalizing count with
  | nil => rfl
  | written | null => exact nomatch none
  | filled default tail inductionHypothesis =>
    rw [membersLeft, default]
    simp only [bind, Except.bind, inductionHypothesis none]
  | missing allowed tail inductionHypothesis =>
    rw [membersLeft, allowed]
    exact inductionHypothesis none _

theorem endsNumber_listed {members : List Member} {values : List (String × Json)}
    {written : List Char} (listed : Listed inside false members values written)
    (rest : List Char) : EndsNumber (written ++ rest) := by
  cases listed with
  | done left given =>
    rw [List.append_assoc]
    exact given.endsNumber (endsNumber_cons _ (by decide))
  | member before | null before =>
    rw [List.append_assoc]
    exact before.endsNumber _

/-- A record that is written as a list is read up to the end of the list. -/
theorem membersOfList_reads (follows : Follows read inside) {first : Bool} {members : List Member}
    {values : List (String × Json)} {written : List Char}
    (listed : Listed inside first members values written) (expected : String) (count : Nat)
    (start : first = (count == 0)) (rest : List Char) :
    membersOfList read expected count members (written ++ rest) = .ok (values, rest) := by
  induction listed generalizing count with
  | @done first members values blanks left given =>
    rw [List.append_assoc, List.singleton_append]
    have others := membersLeft_selection left rfl expected count
    cases members with
    | nil =>
      rw [membersLeft] at others
      rw [membersOfList, listEnd, skipBlanks_sign given (by decide), ← Except.ok.inj others]
      rfl
    | cons member more =>
      rw [membersOfList, listStep_end _ given]
      simp only [bind, Except.bind, others]
  | @member first separator written others member value members values before head present tail
      inductionHypothesis =>
    have reads := memberValue_reads follows head [] _ nofun (endsNumber_listed tail rest)
    have more := inductionHypothesis (count + 1) rfl
    rw [List.nil_append] at reads
    rw [List.append_assoc, List.append_assoc, membersOfList,
      listStep_item (start ▸ before) (beginsItem_memberValue follows head)]
    simp only [bind, Except.bind, reads, more]
    split
    · exact absurd rfl present
    · rfl
  | @null first separator others member members values before allowed tail inductionHypothesis =>
    have given : MemberValue inside member .null ['n', 'u', 'l', 'l'] := by
      rw [MemberValue, allowed]
      exact .null
    have reads := memberValue_reads follows given [] _ nofun (endsNumber_listed tail rest)
    have more := inductionHypothesis (count + 1) rfl
    rw [List.nil_append] at reads
    rw [List.append_assoc, List.append_assoc, membersOfList,
      listStep_item (start ▸ before) (beginsItem_memberValue follows given)]
    simp only [bind, Except.bind, reads, more, allowed]

theorem record_object (follows : Follows read inside) {form : RecordForm}
    {values given selected : List (String × Json)} {written : List Char}
    (entries : Entries inside form.members true given written) (order : given.Perm selected)
    (selection : Selection form.members values selected) (rest : List Char) :
    ofForm (some read) (.record form) ('\x7b' :: (written ++ rest)) = .ok (.obj values, rest) := by
  have distinct : (given.map Prod.fst).Nodup :=
    (order.map Prod.fst).nodup_iff.mpr (form.keys_nodup.sublist (selection_sublist selection))
  have reads := membersOfObject_reads follows entries (written ++ rest) rest [] distinct
    (Nat.le_refl _)
  have whole := assemble_selection selection form.keys_nodup fun member _ =>
    lookup_perm order distinct member.key
  rw [ofForm_record]
  simp only [bind, Except.bind, reads, List.nil_append, whole]

theorem record_listed (follows : Follows read inside) {form : RecordForm}
    {values : List (String × Json)} {written : List Char}
    (listed : Listed inside true form.members values written) (rest : List Char) :
    ofForm (some read) (.record form) ('[' :: (written ++ rest)) = .ok (.obj values, rest) := by
  show (membersOfList read form.titleWithCount 0 form.members (written ++ rest) >>= _) = _
  rw [membersOfList_reads follows listed form.titleWithCount 0 rfl rest]
  rfl

/-! ### Reading choices -/

theorem payload_reads (follows : Follows read inside) {name : String} {belongs : Payload}
    {document : Json} {written : List Char}
    (given : Belonging inside name belongs document written) :
    Reads (payload read name belongs) document written := by
  intro blanks rest before ends
  cases given with
  | none =>
    have reads : null (blanks ++ (['n', 'u', 'l', 'l'] ++ rest)) = .ok (.null, rest) := by
      rw [List.cons_append, null, skipBlanks_sign before (by decide)]
      rfl
    simp only [payload, bind, Except.bind, reads]
  | value given | members given =>
    simp only [payload, bind, Except.bind, follows.reads given blanks rest before ends]
  | optional given =>
    simp only [payload, bind, Except.bind, orNull_reads follows given blanks rest before ends]

theorem choice_named (follows : Follows read inside) {form : ChoiceForm} {name : String}
    {belongs : Payload} {document : Json} {blanks label written after : List Char}
    (known : form.find? name = some ⟨name, belongs⟩) (inner : Blanks blanks)
    (text : Label name label) (given : Belonging inside name belongs document written)
    (behind : Blanks after) (rest : List Char) :
    ofForm (some read) (.choice form)
        ('\x7b' :: (blanks ++ '"' :: (label ++ (written ++ (after ++ '\x7d' :: rest))))) =
      .ok (document, rest) := by
  obtain ⟨_, between, spaced, quotes, colons⟩ :=
    label_reads text (written ++ (after ++ '\x7d' :: rest))
  have ends : EndsNumber ('\x7d' :: rest) := endsNumber_cons rest (by decide)
  have reads := payload_reads follows given between _ spaced (behind.endsNumber ends)
  have start := skipBlanks_sign inner (show isBlank '"' = false by decide)
  have close := skipBlanks_sign behind (show isBlank '\x7d' = false by decide) rest
  rw [ofForm]
  unfold choice
  rw [skipBlanks_cons _ (by decide)]
  simp only [start, bind, Except.bind, quotes, alternative_eq known, colons, reads, close]

end Inside

/-! ### Reading all forms -/

/-- Blanks before a value are left out, whatever its form is. -/
theorem ofForm_blanks (inside : Inside) (form : Form) {blanks : List Char} (given : Blanks blanks)
    (rest : List Char) : ofForm inside form (blanks ++ rest) = ofForm inside form rest := by
  cases form <;> simp only [ofForm, text, integer, record, choice, skipBlanks_append given]

theorem reads_ofForm {inside : Inside} {form : Form} {document : Json} {written : List Char}
    (reads : ∀ rest, EndsNumber rest →
      ofForm inside form (written ++ rest) = .ok (document, rest)) :
    Reads (ofForm inside form) document written := by
  intro blanks rest before ends
  rw [ofForm_blanks inside form before, reads rest ends]

theorem plain_reads (inside : Inside) {form : Form} {document : Json} {written : List Char}
    (given : Plain form document written) : Reads (ofForm inside form) document written := by
  refine reads_ofForm fun rest ends => ?_
  cases given with
  | text given =>
    show (quoted (_ ++ rest) >>= _) = _
    rw [quoted_text given rest]
    rfl
  | int32 low high =>
    have reads := @ofForm_int32 0 inside _ low high rest ends
    simpa only [Json.compact, Json.depth, upTo_zero] using reads
  | uint32 low high =>
    have reads := @ofForm_uint32 0 inside _ low high rest ends
    simpa only [Json.compact, Json.depth, upTo_zero] using reads
  | bare known given =>
    show (quoted (_ ++ rest) >>= _) = _
    rw [quoted_text given rest]
    show (alternative _ _ >>= _) = _
    rw [alternative_eq known]
    rfl

/-- What may be written for a document of a form is read as that document. -/
theorem within_follows (levels : Nat) : Follows (within levels) (Presents levels) := by
  induction levels with
  | zero => exact ⟨beginsValue_presents, plain_reads _⟩
  | succ levels inductionHypothesis =>
    refine ⟨beginsValue_presents, fun given => ?_⟩
    rcases given with plain | nested
    · exact plain_reads _ plain
    · refine reads_ofForm fun rest ends => ?_
      cases nested with
      | list items =>
        rw [List.cons_append, ofForm_list,
          items_reads inductionHypothesis items _ rest (Nat.le_refl _)]
        rfl
      | object entries order selection =>
        exact record_object inductionHypothesis entries order selection rest
      | listed items => exact record_listed inductionHypothesis items rest
      | named known before text given behind =>
        simp only [List.cons_append, List.append_assoc, List.nil_append]
        exact choice_named inductionHypothesis known before text given behind rest

end Reader

/-- Every text that may be written for a program without symbols is read as just this program. -/
theorem Program.ofText_presented (program : Program) (text : String) (fresh : program.IsFresh)
    (presented : program.IsPresented text) : Program.ofText text = .ok program := by
  obtain ⟨before, written, after, leading, trailing, presents, same⟩ := presented
  have ends : Reader.EndsNumber after := by
    rw [← List.append_nil after]
    exact trailing.endsNumber nofun
  have reads := (Reader.within_follows 127).reads presents before after leading ends
  have behind : Reader.skipBlanks after = [] := by
    rw [← List.append_nil after, Reader.skipBlanks_append trailing]
    rfl
  have document : Reader.document (.record .program) text = .ok program.toJson := by
    rw [Reader.document, same, String.toList_ofList, Reader.maxDepth, reads]
    simp only [bind, Except.bind, behind]
  rw [Program.ofText, readAs, document]
  simp only [bind, Except.bind, program.ofJson?_toJson, program.withoutSymbols_of_fresh fresh]

open Presentation Reader

/-- A position may be written as the list of its two numbers. -/
theorem presents_pair (levels : Nat) (pos : Position) :
    Presents (levels + 1) (.record .position) pos.toJson
      ('[' :: (Json.digits pos.line.toNat ++
        (',' :: (Json.digits pos.column.toNat ++ [']'])))) := by
  have number : ∀ n : UInt32, Presents levels .uint32 (.ofNat n.toNat) (Json.digits n.toNat) := by
    intro n
    cases Conforms.word n with
    | uint32 low high => exact .plain (.uint32 low high)
  exact .nested (.listed
    (.member (.first blanks_nil) (memberValue_given (number pos.line)) nofun
      (.member (.comma (spaced_sign ',')) (memberValue_given (number pos.column)) nofun
        (.done .nil blanks_nil))))

/-- A program with a variable and a function that has nothing in it. -/
def sparse : Program :=
  ⟨[.var ⟨.integer, ⟨"x", ⟨1, 9⟩, none⟩, none⟩, .func ⟨.void, ⟨"f", ⟨2, 6⟩, none⟩, [], .empty⟩]⟩

/-- A text of this program with unknown members, half of a pair among the escapes that are passed
over, an escape in a name, members in another order and left out, and records as lists. -/
def sparseText : String :=
  "\x7b\"tab\" : [\x7b\"\\ud800\":-0.5e+3\x7d], \"decls\":[" ++
    "\x7b\"v\\u0061r\":[\"integer\",\x7b\"pos\":[1,9],\"symbol\":null,\"name\":\"x\"\x7d]\x7d," ++
    "\x7b\"func\":\x7b\"name\":[\"f\",[2,6]],\"ret\":\x7b\"void\":null\x7d\x7d\x7d]\x7d\n"

set_option maxRecDepth 2000 in
theorem sparse_read : sparse.IsFresh ∧ sparse.IsPresented sparseText ∧
    Program.ofText sparseText = .ok sparse := by
  have fresh : sparse.IsFresh := by decide
  -- The members nobody knows: a list at the top, and a symbol beside the name of the variable.
  have tabs : AnyItems true _ :=
    .item (.first blanks_nil)
      (.object (.member (.first blanks_nil)
        (.unit (@LooseUnit.numbered 'd' '8' '0' '0' (List.all_eq_true.mp rfl)) .done)
        (spaced_sign ':')
        (.number (.negative (.mk .zero (.point (@Digits.mk '5' [] (List.all_eq_true.mp rfl)))
          (.power (.inl rfl) (.inr (.inl rfl)) (@Digits.mk '3' [] (List.all_eq_true.mp rfl))))))
        (.done blanks_nil)))
      (.done blanks_nil)
  have field : Presents 123 (.record .ident) (Ident.toJson ⟨"x", ⟨1, 9⟩, none⟩) _ :=
    .nested (.object
      (.known (.first blanks_nil) (.tail _ (.head _)) (label_escape "pos")
        (memberValue_given (presents_pair 121 ⟨1, 9⟩))
        (.unknown (.comma (spaced_sign ','))
          (show ∀ member ∈ RecordForm.members .ident, member.key ≠ "symbol" by decide)
          (label_escape "symbol") .null
          (.known (.comma (spaced_sign ',')) (.head _) (label_escape "name")
            (memberValue_given (Presents.plain (.text (quoted_escape _)))) (.done blanks_nil))))
      (.swap _ _ _) (.written nofun (.written nofun .nil)))
  -- The variable: its name in the table with an escape, and its members as a list without a size.
  have var : Label "var" _ :=
    @Label.mk "var" _ _
      (.unit (@QuotedChar.plain 'v' (by decide) (by decide))
        (.unit (@QuotedChar.numbered 'a' ['0', '0', '6', '1']
            (@Hexadecimal.mk '0' '0' '6' '1' 0 0 6 1 rfl rfl rfl rfl))
          (.unit (@QuotedChar.plain 'r' (by decide) (by decide)) .done))) (spaced_sign ':')
  have integer : Presents 123 (.choice .type) (.str "integer") _ :=
    .plain (.bare rfl (quoted_escape "integer".toList))
  have first : Presents 125 (.choice .decl)
      (Decl.toJson (.var ⟨.integer, ⟨"x", ⟨1, 9⟩, none⟩, none⟩)) _ :=
    .nested (.named rfl blanks_nil var (.value (.nested (.listed
      (.member (.first blanks_nil) (memberValue_given integer) (by nofun)
        (.member (.comma (spaced_sign ',')) (memberValue_given field) (by nofun)
          (.done (.missing rfl .nil) blanks_nil)))))) blanks_nil)
  -- The function: its name before its type, and nothing of its formals and its body.
  have name : Presents 123 (.record .ident) (Ident.toJson ⟨"f", ⟨2, 6⟩, none⟩) _ :=
    .nested (.listed (.member (.first blanks_nil)
      (memberValue_given (Presents.plain (.text (quoted_escape _)))) nofun
      (.member (.comma (spaced_sign ',')) (memberValue_given (presents_pair 121 ⟨2, 6⟩)) nofun
        (.done .nil blanks_nil))))
  have void : Presents 123 (.choice .type) (.str "void") _ :=
    .nested (.named rfl blanks_nil (label_escape "void") .none blanks_nil)
  have selection : Selection RecordForm.function.members
      [("ret", .str "void"), ("name", Ident.toJson ⟨"f", ⟨2, 6⟩, none⟩), ("formals", .arr []),
        ("body", Block.empty.toJson)]
      [("ret", .str "void"), ("name", Ident.toJson ⟨"f", ⟨2, 6⟩, none⟩)] :=
    .written nofun (.written nofun (.filled rfl (.filled (by rw [Block.empty, Block.toJson]; rfl)
      .nil)))
  have second : Presents 125 (.choice .decl)
      (Decl.toJson (.func ⟨.void, ⟨"f", ⟨2, 6⟩, none⟩, [], .empty⟩)) _ :=
    .nested (.named rfl blanks_nil (label_escape "func") (.value (.nested (.object
      (.known (.first blanks_nil) (.tail _ (.head _)) (label_escape "name")
        (memberValue_given name)
        (.known (.comma (spaced_sign ',')) (.head _) (label_escape "ret")
          (memberValue_given void) (.done blanks_nil)))
      (.swap _ _ _) selection))) blanks_nil)
  have presented : sparse.IsPresented sparseText :=
    ⟨[], _, ['\n'], blanks_nil, by decide, .nested (.object
      (.unknown (.first blanks_nil)
        (show ∀ member ∈ RecordForm.members .program, member.key ≠ "tab" by decide)
        (.mk (quoted_escape "tab".toList) (@Spaced.mk ':' [' '] [' '] (by decide) (by decide)))
        (.list tabs)
        (.known (.comma (@Spaced.mk ',' [] [' '] (by decide) (by decide))) (.head _)
          (label_escape "decls")
          (memberValue_given (.nested (.list (.item (.first blanks_nil) first
            (.item (.comma (spaced_sign ',')) second (.done blanks_nil))))))
          (.done blanks_nil)))
      (.refl _) (.written nofun .nil)), rfl⟩
  exact ⟨fresh, presented, sparse.ofText_presented sparseText fresh presented⟩

end NameBinding
