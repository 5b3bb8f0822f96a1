/-
This file proves that reading takes back what is written. The compact text of a document of a form
is followed by something that is no part of it, and reading by that form stops just there and gives
the document. Each object and each list that is opened takes one of the levels that are left. Since
the text is without faults, the only error that can arise is that no level is left, and it arises
just when the document is deeper than there are levels. So a reader is described by the depth of
what it reads, and the depth of two steps one after the other is the greater of their depths.
-/

import NameBinding.Proofs.Conformance
import NameBinding.Proofs.Tokens
import NameBinding.Proofs.WithoutSymbols
import NameBinding.Tree.Text

namespace NameBinding

namespace Reader

variable {α β : Type} {levels depth deeper : Nat}

/-- The result of reading something of a depth with so many levels left. -/
def upTo (levels depth : Nat) (result : α) : Except ReadError α :=
  if depth ≤ levels then .ok result else .error .tooDeep

@[simp] theorem upTo_zero (result : α) : upTo levels 0 result = .ok result :=
  if_pos (Nat.zero_le levels)

theorem upTo_succ (result : α) :
    upTo (levels + 1) (depth + 1) result = upTo levels depth result := by
  simp only [upTo, Nat.add_le_add_iff_right]

/-- Two steps one after the other need the levels of the deeper one. -/
theorem upTo_bind {result : α} {next : α → Except ReadError β} {final : β}
    (follows : next result = upTo levels deeper final) :
    (upTo levels depth result >>= next) = upTo levels (max depth deeper) final := by
  by_cases fits : depth ≤ levels
  · simp only [upTo, Nat.max_le, fits, true_and]
    exact follows
  · simp only [upTo, Nat.max_le, fits, false_and, if_false]
    rfl

theorem upTo_map {result : α} {next : α → Except ReadError β} {final : β}
    (follows : next result = .ok final) :
    (upTo levels depth result >>= next) = upTo levels depth final := by
  have whole : (upTo levels depth result >>= next) = upTo levels (max depth 0) final :=
    upTo_bind (follows.trans (upTo_zero final).symm)
  rwa [Nat.max_zero] at whole

/-! ### Steps -/

variable {text inner after rest bound : List Char} {first : Bool} {step : Char}

theorem items_step {item : Reader Json} {value : Json} {values : List Json}
    (start : listStep first text = .ok (.item inner))
    (head : item inner = upTo levels depth (value, after))
    (tail : items item bound false after = upTo levels deeper (values, rest)) :
    items item (step :: bound) first text =
      upTo levels (max depth deeper) (value :: values, rest) := by
  rw [items, start]
  show (item inner >>= fun read => items item bound false read.2 >>= fun more =>
    .ok (read.1 :: more.1, more.2)) = _
  rw [head]
  refine upTo_bind ?_
  rw [tail]
  exact upTo_map rfl

theorem membersOfObject_step {inside : Form → Reader Json} {members : List Member}
    {member : Member} {found : List (String × Json)} {value : Json} {result : List (String × Json)}
    {afterKey afterColon : List Char}
    (start : objectStep first text = .ok (.key inner))
    (name : quoted inner = .ok (member.key, afterKey))
    (known : (members.find? fun other => other.key == member.key) = some member)
    (unread : found.lookup member.key = none)
    (separated : colon afterKey = .ok afterColon)
    (head : memberValue inside member afterColon = upTo levels depth (value, after))
    (tail : membersOfObject inside members bound false (found ++ [(member.key, value)]) after =
      upTo levels deeper (result, rest)) :
    membersOfObject inside members (step :: bound) first found text =
      upTo levels (max depth deeper) (result, rest) := by
  simp only [membersOfObject, start, name, known, unread, separated, bind, Except.bind]
  show (memberValue inside member afterColon >>= fun read =>
    membersOfObject inside members bound false (found ++ [(member.key, read.1)]) read.2) = _
  rw [head]
  exact upTo_bind tail

end Reader

/-! ### Compact documents -/

namespace Json

theorem compactItems_cons (item : Json) (rest : List Json) :
    compactItems (item :: rest) = item.compact ++ rest.flatMap fun item => ',' :: item.compact := by
  induction rest generalizing item with
  | nil => rw [compactItems, List.flatMap_nil, List.append_nil]
  | cons next rest inductionHypothesis =>
    rw [compactItems, inductionHypothesis, List.flatMap_cons, List.cons_append]

/-- A member as it is written. -/
def compactMember (member : String × Json) : List Char :=
  quote member.1 ++ ':' :: member.2.compact

theorem compactMembers_cons (member : String × Json) (rest : List (String × Json)) :
    compactMembers (member :: rest) =
      compactMember member ++ rest.flatMap fun member => ',' :: compactMember member := by
  induction rest generalizing member with
  | nil => rw [compactMembers, List.flatMap_nil, List.append_nil, compactMember]
  | cons next rest inductionHypothesis =>
    rw [compactMembers, inductionHypothesis, List.flatMap_cons]
    simp only [compactMember, List.append_assoc, List.cons_append]

/-- A number begins with a sign or a digit. -/
theorem digits_head (value : Int) :
    ∃ c more, digits value = c :: more ∧ (c = '-' ∨ Reader.isDigit c = true) := by
  cases value with
  | ofNat n =>
    obtain ⟨c, more, head⟩ := List.exists_cons_of_ne_nil (Nat.toDigits_ne_nil (b := 10) (n := n))
    exact ⟨c, more, head, .inr (Reader.isDigit_toDigits n c (head ▸ List.mem_cons_self))⟩
  | negSucc n => exact ⟨'-', _, rfl, .inl rfl⟩

end Json

/-- A document of a form begins with no blank, and with nothing that could be taken for the end of a
list or for null. -/
theorem Conforms.head {form : Form} {document : Json} (given : Conforms form document) :
    ∃ c more, document.compact = c :: more ∧ Reader.isBlank c = false ∧ c ≠ ']' ∧ c ≠ 'n' := by
  have number : ∀ value, ∃ c more, (Json.int value).compact = c :: more ∧
      Reader.isBlank c = false ∧ c ≠ ']' ∧ c ≠ 'n' := by
    intro value
    obtain ⟨c, more, head, start⟩ := Json.digits_head value
    exact ⟨c, more, head, Reader.plain_of_number start⟩
  cases given with
  | text | bare => exact ⟨'"', _, rfl, by decide⟩
  | int32 | uint32 => exact number _
  | list => exact ⟨'[', _, by rw [Json.compact]; rfl, by decide⟩
  | record | tagged | unset => exact ⟨'\x7b', _, by rw [Json.compact]; rfl, by decide⟩

namespace Reader

variable {levels : Nat}

/-- Whether a reader takes back what is written for a document, as long as there are levels left,
whatever follows. -/
def TakesBack (read : Reader Json) (levels : Nat) (document : Json) : Prop :=
  ∀ rest, EndsNumber rest →
    read (document.compact ++ rest) = upTo levels document.depth (document, rest)

theorem endsNumber_flatMap {α : Type} (items : List α) (written : α → List Char)
    {closing : List Char} (ends : EndsNumber closing) :
    EndsNumber ((items.flatMap fun item => ',' :: written item) ++ closing) := by
  cases items with
  | nil => exact ends
  | cons item others =>
    rw [List.flatMap_cons, List.cons_append, List.cons_append]
    exact endsNumber_cons _ (by decide)

theorem skipBlanks_compact {form : Form} {document : Json} (given : Conforms form document)
    (rest : List Char) : skipBlanks (document.compact ++ rest) = document.compact ++ rest := by
  obtain ⟨c, more, head, plain, -⟩ := given.head
  rw [head, List.cons_append, skipBlanks_cons _ plain]

theorem listStep_first {form : Form} {document : Json} (given : Conforms form document)
    (rest : List Char) :
    listStep true (document.compact ++ rest) = .ok (.item (document.compact ++ rest)) := by
  obtain ⟨c, more, head, plain, item, -⟩ := given.head
  rw [head, List.cons_append, listStep, skipBlanks_cons _ plain]
  split
  · exact absurd ‹_› (List.cons_ne_nil _ _)
  · exact absurd (List.cons.inj ‹_›).1 item
  · rename_i same
    obtain ⟨rfl, rfl⟩ := List.cons.inj same
    rfl

theorem listStep_later {form : Form} {document : Json} (given : Conforms form document)
    (rest : List Char) :
    listStep false (',' :: (document.compact ++ rest)) =
      .ok (.item (document.compact ++ rest)) := by
  obtain ⟨c, more, head, plain, item, -⟩ := given.head
  have comma : skipBlanks (',' :: (document.compact ++ rest)) = ',' :: (document.compact ++ rest) :=
    skipBlanks_cons _ (by decide)
  rw [listStep, comma]
  split
  · exact absurd ‹_› (List.cons_ne_nil _ _)
  · exact absurd (List.cons.inj ‹_›).1 (by decide)
  · rename_i same
    obtain ⟨rfl, rfl⟩ := List.cons.inj same
    rw [if_neg Bool.false_ne_true, if_pos rfl, skipBlanks_compact given, head]
    split
    · exact absurd ‹_› (List.cons_ne_nil _ _)
    · exact absurd (List.cons.inj ‹_›).1 item
    · rfl

theorem listStep_done (first : Bool) (rest : List Char) :
    listStep first (']' :: rest) = .ok (.done rest) := by
  rw [listStep, skipBlanks_cons _ (by decide)]
  rfl

/-! ### Lists -/

theorem items_done (item : Reader Json) (first : Bool) (step : Char) (bound rest : List Char) :
    items item (step :: bound) first (']' :: rest) = .ok ([], rest) := by
  rw [items, listStep_done]
  rfl

theorem items_later {read : Form → Reader Json} {form : Form} {values : List Json}
    (conform : ∀ value ∈ values, Conforms form value)
    (back : ∀ value ∈ values, TakesBack (read form) levels value) (bound rest : List Char)
    (room : values.length < bound.length) :
    items (read form) bound false
        ((values.flatMap fun value => ',' :: value.compact) ++ ']' :: rest) =
      upTo levels (Json.depthOfItems values) (values, rest) := by
  induction values generalizing bound with
  | nil =>
    obtain ⟨step, more, rfl⟩ := List.exists_cons_of_length_pos room
    rw [List.flatMap_nil, List.nil_append, items_done, Json.depthOfItems, upTo_zero]
  | cons value others inductionHypothesis =>
    obtain ⟨step, more, rfl⟩ := List.exists_cons_of_length_pos (Nat.zero_lt_of_lt room)
    rw [List.forall_mem_cons] at conform back
    rw [List.flatMap_cons, List.cons_append, List.cons_append, List.append_assoc]
    exact items_step (listStep_later conform.1 _)
      (back.1 _ (endsNumber_flatMap others _ (endsNumber_cons rest (by decide))))
      (inductionHypothesis conform.2 back.2 more (Nat.lt_of_succ_lt_succ room))

theorem length_le_flatMap {α : Type} (items : List α) (written : α → List Char) :
    items.length ≤ (items.flatMap fun item => ',' :: written item).length := by
  induction items with
  | nil => exact Nat.le_refl 0
  | cons item others inductionHypothesis =>
    rw [List.flatMap_cons, List.length_append, List.length_cons, List.length_cons]
    omega

/-- The items of a list are read back up to its end. -/
theorem items_compact {read : Form → Reader Json} {form : Form} {values : List Json}
    (conform : ∀ value ∈ values, Conforms form value)
    (back : ∀ value ∈ values, TakesBack (read form) levels value) (bound rest : List Char)
    (room : values.length < bound.length) :
    items (read form) bound true (Json.compactItems values ++ ']' :: rest) =
      upTo levels (Json.depthOfItems values) (values, rest) := by
  obtain ⟨step, more, rfl⟩ := List.exists_cons_of_length_pos (Nat.zero_lt_of_lt room)
  cases values with
  | nil => exact items_done _ true step more rest
  | cons value others =>
    rw [List.forall_mem_cons] at conform back
    rw [Json.compactItems_cons, List.append_assoc]
    exact items_step (listStep_first conform.1 _)
      (back.1 _ (endsNumber_flatMap others _ (endsNumber_cons rest (by decide))))
      (items_later conform.2 back.2 more rest (Nat.lt_of_succ_lt_succ room))

theorem length_le_compactItems {form : Form} {values : List Json}
    (conform : ∀ value ∈ values, Conforms form value) :
    values.length ≤ (Json.compactItems values).length := by
  cases values with
  | nil => exact Nat.le_refl 0
  | cons value others =>
    obtain ⟨c, more, head, -⟩ := (conform value List.mem_cons_self).head
    have room := length_le_flatMap others Json.compact
    rw [Json.compactItems_cons, head, List.length_append, List.length_cons, List.length_cons]
    omega

/-! ### Members -/

theorem orNull_compact {read : Reader Json} {form : Form} {document : Json}
    (conforms : Conforms form document) (rest : List Char) :
    orNull read (document.compact ++ rest) = read (document.compact ++ rest) := by
  unfold orNull
  rw [skipBlanks_compact conforms]
  obtain ⟨c, more, head, -, -, other⟩ := conforms.head
  rw [head, List.cons_append]
  split
  · exact absurd (List.cons.inj ‹_›).1 other
  · rfl

theorem TakesBack.memberValue {read : Form → Reader Json} {member : Member} {value : Json}
    (conforms : Conforms member.form value) (back : TakesBack (read member.form) levels value) :
    TakesBack (memberValue read member) levels value := by
  intro rest ends
  rw [Reader.memberValue.eq_def]
  cases member.absence with
  | allowed => exact (orNull_compact conforms rest).trans (back rest ends)
  | _ => exact back rest ends

theorem compactMember_append (pair : String × Json) (after : List Char) :
    Json.compactMember pair ++ after =
      '"' :: (pair.1.toList.flatMap Json.escape ++ '"' :: ':' :: (pair.2.compact ++ after)) := by
  simp only [Json.compactMember, Json.quote, List.cons_append, List.append_assoc, List.nil_append]

theorem membersOfObject_pair {read : Form → Reader Json} {members : List Member}
    {found result : List (String × Json)} {pair : String × Json} {text after rest bound : List Char}
    {first : Bool} {step : Char} {deeper : Nat}
    (known : ∃ member, (members.find? fun other => other.key == pair.1) = some member ∧
      TakesBack (memberValue read member) levels pair.2)
    (unread : found.lookup pair.1 = none)
    (start : objectStep first text = .ok (.key
      (pair.1.toList.flatMap Json.escape ++ '"' :: ':' :: (pair.2.compact ++ after))))
    (ends : EndsNumber after)
    (tail : membersOfObject read members bound false (found ++ [pair]) after =
      upTo levels deeper (result, rest)) :
    membersOfObject read members (step :: bound) first found text =
      upTo levels (max pair.2.depth deeper) (result, rest) := by
  obtain ⟨member, member?, back⟩ := known
  obtain ⟨key, value⟩ := pair
  obtain rfl : member.key = key := by simpa using List.find?_some member?
  exact membersOfObject_step start (quoted_escape _ _) member? unread rfl (back after ends) tail

theorem membersOfObject_later {read : Form → Reader Json} {members : List Member}
    {found left : List (String × Json)} (bound rest : List Char)
    (known : ∀ pair ∈ left, ∃ member,
      (members.find? fun other => other.key == pair.1) = some member ∧
        TakesBack (memberValue read member) levels pair.2)
    (distinct : ((found ++ left).map Prod.fst).Nodup) (room : left.length < bound.length) :
    membersOfObject read members bound false found
        ((left.flatMap fun pair => ',' :: Json.compactMember pair) ++ '\x7d' :: rest) =
      upTo levels (Json.depthOfMembers left) (found ++ left, rest) := by
  induction left generalizing found bound with
  | nil =>
    obtain ⟨step, more, rfl⟩ := List.exists_cons_of_length_pos room
    rw [List.append_nil, Json.depthOfMembers, upTo_zero]
    rfl
  | cons pair others inductionHypothesis =>
    obtain ⟨step, more, rfl⟩ := List.exists_cons_of_length_pos (Nat.zero_lt_of_lt room)
    rw [List.forall_mem_cons] at known
    have unread : found.lookup pair.1 = none := by
      rw [List.map_append, List.nodup_append] at distinct
      refine List.lookup_eq_none_iff.mpr fun other earlier => ?_
      have differ := distinct.2.2 other.1 (List.mem_map_of_mem earlier) pair.1 List.mem_cons_self
      simpa [bne_iff_ne] using differ.symm
    rw [List.append_cons] at distinct
    rw [List.flatMap_cons, List.cons_append, List.cons_append, List.append_assoc,
      compactMember_append, List.append_cons found]
    exact membersOfObject_pair known.1 unread rfl
      (endsNumber_flatMap others _ (endsNumber_cons rest (by decide)))
      (inductionHypothesis more known.2 distinct (Nat.lt_of_succ_lt_succ room))

/-- The members of an object are read back up to its end. -/
theorem membersOfObject_compact {read : Form → Reader Json} {members : List Member}
    {values : List (String × Json)} (bound rest : List Char)
    (known : ∀ pair ∈ values, ∃ member,
      (members.find? fun other => other.key == pair.1) = some member ∧
        TakesBack (memberValue read member) levels pair.2)
    (distinct : (values.map Prod.fst).Nodup) (room : values.length < bound.length) :
    membersOfObject read members bound true [] (Json.compactMembers values ++ '\x7d' :: rest) =
      upTo levels (Json.depthOfMembers values) (values, rest) := by
  obtain ⟨step, more, rfl⟩ := List.exists_cons_of_length_pos (Nat.zero_lt_of_lt room)
  cases values with
  | nil =>
    rw [Json.depthOfMembers, upTo_zero]
    rfl
  | cons pair others =>
    rw [List.forall_mem_cons] at known
    rw [Json.compactMembers_cons, List.append_assoc, compactMember_append]
    exact membersOfObject_pair known.1 rfl rfl
      (endsNumber_flatMap others _ (endsNumber_cons rest (by decide)))
      (membersOfObject_later more rest known.2 distinct (Nat.lt_of_succ_lt_succ room))

theorem length_le_compactMembers (values : List (String × Json)) :
    values.length ≤ (Json.compactMembers values).length := by
  cases values with
  | nil => exact Nat.le_refl 0
  | cons pair others =>
    have room := length_le_flatMap others Json.compactMember
    rw [Json.compactMembers_cons, Json.compactMember, Json.quote, List.length_append,
      List.length_append, List.length_cons, List.length_cons]
    omega

/-- Members that are in order and lack only what may stay away are put together as they are. -/
theorem assemble_eq {members : List Member} {found values : List (String × Json)}
    (given : HasMembers (fun member value => Conforms member.form value) members values)
    (distinct : (members.map Member.key).Nodup)
    (same : ∀ member ∈ members, found.lookup member.key = values.lookup member.key) :
    assemble found members = .ok values := by
  induction given with
  | nil => rfl
  | @cons member value rest others head tail inductionHypothesis =>
    rw [List.map_cons, List.nodup_cons] at distinct
    rw [List.forall_mem_cons, List.lookup_cons_self] at same
    have later : ∀ next ∈ rest, found.lookup next.key = others.lookup next.key := by
      intro next known
      have differ : (next.key == member.key) = false := by
        rw [beq_eq_false_iff_ne]
        rintro equal
        exact distinct.1 (equal ▸ List.mem_map_of_mem known)
      rw [same.2 next known, List.lookup_cons, differ]
    have present : value ≠ .null := head.ne_null
    rw [assemble, same.1]
    split
    case h_1 null _ => exact absurd (Option.some.inj null) present
    case h_2 written same _ =>
      obtain rfl := Option.some.inj same
      show (assemble found rest >>= fun others => Except.ok ((member.key, value) :: others)) = _
      rw [inductionHypothesis distinct.2 later]
      rfl
    case h_3 missing => exact nomatch missing
  | @missing member rest others allowed tail inductionHypothesis =>
    rw [List.map_cons, List.nodup_cons] at distinct
    rw [List.forall_mem_cons] at same
    have absent : others.lookup member.key = none := by
      refine List.lookup_eq_none_iff.mpr fun pair known => ?_
      have key := tail.keys_sublist.subset (List.mem_map_of_mem known)
      rw [bne_iff_ne]
      exact fun equal => distinct.1 (equal ▸ key)
    rw [assemble, same.1, absent, allowed]
    show (assemble found rest >>= fun others => Except.ok others) = _
    rw [inductionHypothesis distinct.2 same.2]
    rfl

/-! ### All forms -/

theorem compact_str (value : String) (rest : List Char) :
    (Json.str value).compact ++ rest =
      '"' :: (value.toList.flatMap Json.escape ++ '"' :: rest) := by
  simp only [Json.compact, Json.quote, List.cons_append, List.append_assoc, List.nil_append]

theorem text_compact (value : String) (rest : List Char) :
    text ((Json.str value).compact ++ rest) = .ok (value, rest) := by
  rw [compact_str, text, skipBlanks_cons _ (by decide)]
  exact quoted_escape value rest

theorem integer_compact {low high value : Int} {form : Form} (expected : String)
    (conforms : Conforms form (.int value)) (least : low ≤ value) (greatest : value ≤ high)
    (word : -Int.pow 2 63 ≤ low ∧ high < Int.pow 2 64) (rest : List Char) (ends : EndsNumber rest) :
    integer low high expected ((Json.int value).compact ++ rest) = .ok (value, rest) := by
  have read := number_digits value (Int.le_trans word.1 least) (Int.lt_of_le_of_lt greatest word.2)
    rest ends
  rw [integer, skipBlanks_compact conforms, Json.compact]
  obtain ⟨c, more, head, start⟩ := Json.digits_head value
  rw [head, List.cons_append] at read ⊢
  simp only [if_pos start, read, bind, Except.bind]
  rw [if_pos ⟨least, greatest⟩]

theorem ofForm_list (read : Form → Reader Json) (item : Form) (text : List Char) :
    ofForm (some read) (.list item) ('[' :: text) =
      (items (read item) text true text >>= fun given => .ok (.arr given.1, given.2)) :=
  rfl

theorem ofForm_record (read : Form → Reader Json) (form : RecordForm) (text : List Char) :
    ofForm (some read) (.record form) ('\x7b' :: text) =
      (membersOfObject read form.members text true [] text >>= fun given =>
        assemble given.1 form.members >>= fun members => .ok (.obj members, given.2)) :=
  rfl

theorem ofForm_list_compact {read : Form → Reader Json} {item : Form} {values : List Json}
    (conform : ∀ value ∈ values, Conforms item value)
    (back : ∀ value ∈ values, TakesBack (read item) levels value) :
    TakesBack (ofForm (some read) (.list item)) (levels + 1) (.arr values) := by
  intro rest ends
  have room := length_le_compactItems conform
  have written : (Json.arr values).compact ++ rest =
      '[' :: (Json.compactItems values ++ ']' :: rest) := by
    simp only [Json.compact, List.cons_append, List.append_assoc, List.nil_append]
  rw [written, ofForm_list, Json.depth, upTo_succ, items_compact conform back]
  · exact upTo_map rfl
  · rw [List.length_append, List.length_cons]
    omega

theorem ofForm_record_compact {read : Form → Reader Json} {form : RecordForm}
    {values : List (String × Json)}
    (all : HasMembers (fun member value => Conforms member.form value) form.members values)
    (back : ∀ form document, Conforms form document → TakesBack (read form) levels document) :
    TakesBack (ofForm (some read) (.record form)) (levels + 1) (.obj values) := by
  intro rest ends
  have room := length_le_compactMembers values
  have written : (Json.obj values).compact ++ rest =
      '\x7b' :: (Json.compactMembers values ++ '\x7d' :: rest) := by
    simp only [Json.compact, List.cons_append, List.append_assoc, List.nil_append]
  have known : ∀ pair ∈ values, ∃ member,
      (form.members.find? fun other => other.key == pair.1) = some member ∧
        TakesBack (memberValue read member) levels pair.2 := by
    intro pair given
    obtain ⟨member, known, key, conforms⟩ := all.member_of_mem pair given
    exact ⟨member, key ▸ form.find?_key known, (back _ _ conforms).memberValue conforms⟩
  rw [written, ofForm_record, Json.depth, upTo_succ,
    membersOfObject_compact _ _ known (form.keys_nodup.sublist all.keys_sublist)]
  · refine upTo_map ?_
    show (assemble values form.members >>= _) = _
    rw [assemble_eq all form.keys_nodup fun _ _ => rfl]
    rfl
  · rw [List.length_append, List.length_cons]
    omega

theorem alternative_eq {form : ChoiceForm} {name : String} {chosen : Alternative}
    (known : form.find? name = some chosen) : alternative form name = .ok chosen := by
  rw [alternative, known]

/-- What is written for an alternative with something to it. -/
theorem compact_tagged (name : String) (value : Json) (rest : List Char) :
    (Json.obj [(name, value)]).compact ++ rest =
      '\x7b' :: '"' :: (name.toList.flatMap Json.escape ++
        '"' :: ':' :: (value.compact ++ '\x7d' :: rest)) := by
  simp only [Json.compact, Json.compactMembers, Json.quote, List.cons_append, List.append_assoc,
    List.nil_append]

/-- An alternative is read back if what belongs to its name is. -/
theorem choice_tagged {read : Form → Reader Json} {form : ChoiceForm} {name : String}
    {belongs : Payload} {value : Json} (known : form.find? name = some ⟨name, belongs⟩)
    (back : ∀ rest, EndsNumber rest → payload read name belongs (value.compact ++ rest) =
      upTo levels value.depth (.obj [(name, value)], rest)) :
    TakesBack (choice (some read) form) (levels + 1) (.obj [(name, value)]) := by
  intro rest ends
  have level : (Json.obj [(name, value)]).depth = value.depth + 1 := by
    rw [Json.depth, Json.depthOfMembers, Json.depthOfMembers, Nat.max_zero]
  rw [compact_tagged, level, upTo_succ]
  show (quoted _ >>= _) = _
  rw [quoted_escape]
  show (alternative form name >>= _) = _
  rw [alternative_eq known]
  show (payload read name belongs (value.compact ++ '\x7d' :: rest) >>= _) = _
  rw [back _ (endsNumber_cons rest (by decide))]
  exact upTo_map rfl

theorem payload_tagged {read : Form → Reader Json} {name : String} {belongs : Payload}
    {inner : Form} {value : Json} (inside : belongs.form? = some inner)
    (conforms : Conforms inner value) (rest : List Char) :
    payload read name belongs (value.compact ++ rest) =
      (read inner (value.compact ++ rest) >>= fun given =>
        .ok (.obj [(name, given.1)], given.2)) := by
  cases belongs with
  | none => exact nomatch inside
  | value form =>
    obtain rfl := Option.some.inj inside
    rfl
  | optional form =>
    obtain rfl := Option.some.inj inside
    show (orNull (read form) (value.compact ++ rest) >>= _) = _
    rw [orNull_compact conforms]
  | members form =>
    obtain rfl := Option.some.inj inside
    rfl

theorem ofForm_text (inside : Inside) (value : String) :
    TakesBack (ofForm inside .text) levels (.str value) := by
  intro rest ends
  show (text ((Json.str value).compact ++ rest) >>= _) = _
  rw [text_compact value rest]
  exact (upTo_zero _).symm

theorem ofForm_int32 (inside : Inside) {value : Int} (low : -Int.pow 2 31 ≤ value)
    (high : value ≤ Int.pow 2 31 - 1) : TakesBack (ofForm inside .int32) levels (.int value) := by
  intro rest ends
  show (integer (-Int.pow 2 31) (Int.pow 2 31 - 1) "i32" _ >>= _) = _
  rw [integer_compact "i32" (.int32 low high) low high (by decide) rest ends]
  exact (upTo_zero _).symm

theorem ofForm_uint32 (inside : Inside) {value : Int} (low : 0 ≤ value)
    (high : value ≤ Int.pow 2 32 - 1) : TakesBack (ofForm inside .uint32) levels (.int value) := by
  intro rest ends
  show (integer 0 (Int.pow 2 32 - 1) "u32" _ >>= _) = _
  rw [integer_compact "u32" (.uint32 low high) low high (by decide) rest ends]
  exact (upTo_zero _).symm

theorem choice_bare (inside : Inside) {form : ChoiceForm} {name : String}
    (known : form.find? name = some ⟨name, .none⟩) :
    TakesBack (choice inside form) levels (.str name) := by
  intro rest ends
  rw [compact_str]
  show (quoted _ >>= _) = _
  rw [quoted_escape]
  show (alternative form name >>= _) = _
  rw [alternative_eq known]
  exact (upTo_zero _).symm

/-- What is written for a document of a form is read back by a reader for this level, if it is read
back further inside. -/
theorem ofForm_compact {read : Form → Reader Json}
    (back : ∀ form document, Conforms form document → TakesBack (read form) levels document)
    {form : Form} {document : Json} (conforms : Conforms form document) :
    TakesBack (ofForm (some read) form) (levels + 1) document := by
  cases conforms with
  | text value => exact ofForm_text _ value
  | int32 low high => exact ofForm_int32 _ low high
  | uint32 low high => exact ofForm_uint32 _ low high
  | list all => exact ofForm_list_compact all fun value given => back _ value (all value given)
  | record all => exact ofForm_record_compact all back
  | bare known => exact choice_bare _ known
  | tagged known inside given =>
    refine choice_tagged known fun rest ends => ?_
    rw [payload_tagged inside given, back _ _ given rest ends]
    exact upTo_map rfl
  | unset known => exact choice_tagged known fun rest ends => (upTo_zero _).symm

/-- Without a level left, only what has no parts is read back. -/
theorem ofForm_none_compact {form : Form} {document : Json} (conforms : Conforms form document) :
    TakesBack (ofForm none form) 0 document := by
  cases conforms with
  | text value => exact ofForm_text _ value
  | int32 low high => exact ofForm_int32 _ low high
  | uint32 low high => exact ofForm_uint32 _ low high
  | bare known => exact choice_bare _ known
  | list | record | tagged | unset =>
    intro rest ends
    rw [Json.compact, Json.depth]
    rfl

/-- What is written for a document of a form is read back if the document is not too deep. If it is,
this is the error. -/
theorem within_compact (levels : Nat) (form : Form) (document : Json)
    (conforms : Conforms form document) : TakesBack (within levels form) levels document := by
  induction levels generalizing form document with
  | zero => exact ofForm_none_compact conforms
  | succ levels inductionHypothesis => exact ofForm_compact inductionHypothesis conforms

theorem document_text {form : Form} {document : Json} (conforms : Conforms form document) :
    Reader.document form document.text = upTo maxDepth document.depth document := by
  have ends : EndsNumber [] := nofun
  have read := within_compact maxDepth form document conforms [] ends
  rw [List.append_nil] at read
  rw [Reader.document, Json.text, String.toList_ofList, read]
  exact upTo_map rfl

end Reader

/-- The text of a program whose document is at most this deep is read as the program without its
symbols. A deeper one is not read. -/
theorem Program.ofText_text (program : Program) :
    Program.ofText program.text =
      if program.toJson.depth ≤ 127 then .ok program.withoutSymbols else .error .tooDeep := by
  show (Reader.document (.record .program) program.toJson.text >>= _) = _
  rw [Reader.document_text program.toJson_conforms]
  refine Reader.upTo_map ?_
  rw [program.ofJson?_toJson]

end NameBinding
