/-
This file proves that the text of a program of which the end is missing is always refused as one
that ends too early, wherever it was cut. This holds of every text that is read and in which every
key belongs to a member. Such texts are told by a reader that refuses all other keys and does all
else as the reader of programs does. The two readers are compared, the one on the whole text and the
other on a part of it, from the steps in lists and objects up to the levels.
-/

import Mathlib.Data.List.TakeWhile
import NameBinding.Proofs.CutShort
import NameBinding.Proofs.ReadBack

namespace NameBinding

namespace Reader

/-! ### Reading with no other keys -/

/-- Reads members up to the end of an object, and refuses a key that belongs to no member. -/
def knownMembers (inside : Form → Reader Json) (members : List Member) :
    List Char → Bool → List (String × Json) → Reader (List (String × Json))
  | [], _, _, _ => .error (.truncated .object)
  | _ :: bound, first, found, text => do
    match ← objectStep first text with
    | .done rest => .ok (found, rest)
    | .key text =>
      let (key, rest) ← quoted text
      match members.find? fun member => member.key == key with
      | none => .error (.unknownChoice key (members.map Member.key))
      | some member =>
        match found.lookup key with
        | some _ => .error (.duplicateMember key)
        | none =>
          let rest ← colon rest
          let (value, rest) ← memberValue inside member rest
          knownMembers inside members bound false (found ++ [(key, value)]) rest

/-- Reads a record in which every key belongs to a member. -/
def knownRecord (inside : Inside) (form : RecordForm) : Reader Json := fun input =>
  match skipBlanks input, inside with
  | '\x7b' :: _, none => .error .tooDeep
  | '[' :: _, none => .error .tooDeep
  | '\x7b' :: text, some inside => do
    let (found, rest) ← knownMembers inside form.members text true [] text
    let members ← assemble found form.members
    .ok (.obj members, rest)
  | '[' :: text, some inside => do
    let (members, rest) ← membersOfList inside form.titleWithCount 0 form.members text
    .ok (.obj members, rest)
  | input, _ => wrongType form.title input

/-- Reads a value of a form, and refuses other keys in a record. -/
def knownForm (inside : Inside) : Form → Reader Json
  | .record form => knownRecord inside form
  | form => ofForm inside form

/-- Reads a value of a form, and refuses other keys in all records. -/
def knownWithin : Nat → Form → Reader Json
  | 0 => knownForm none
  | levels + 1 => knownForm (some (knownWithin levels))

end Reader

/-- Whether every key in the text of a program belongs to a member. -/
def Program.HasKnownKeys (text : String) : Prop :=
  ∃ document rest,
    Reader.knownWithin Reader.maxDepth (.record .program) text.toList = .ok (document, rest)

instance (text : String) : Decidable (Program.HasKnownKeys text) :=
  decidable_of_iff
    ((Reader.knownWithin Reader.maxDepth (.record .program) text.toList).isOk = true) <| by
      rw [Program.HasKnownKeys]
      cases Reader.knownWithin Reader.maxDepth (.record .program) text.toList with
      | error error => exact iff_of_false nofun fun ⟨_, _, read⟩ => nomatch read
      | ok given => exact iff_of_true rfl ⟨given.1, given.2, rfl⟩

namespace Reader

variable {lost : List Char}

/-! ### Steps -/

theorem text_cut (part : List Char) :
    CutShort (Same lost) (text (part ++ lost)) (text part) := by
  unfold text
  obtain empty | ⟨c, rest, here, whole⟩ := skipBlanks_cut part lost
  · rw [empty]
    exact .truncated _ _
  · rw [here, whole]
    split
    · rename_i same
      obtain ⟨rfl, rfl⟩ := List.cons.inj same
      exact quoted_cut rest
    · exact wrongType_cut _ _ _

theorem colon_cut (part : List Char) :
    CutShort (Behind lost) (colon (part ++ lost)) (colon part) := by
  unfold colon
  obtain empty | ⟨c, rest, here, whole⟩ := skipBlanks_cut part lost
  · rw [empty]
    exact .truncated _ _
  · rw [here, whole]
    split
    · exact .refused _ _
    · rename_i same
      obtain ⟨rfl, rfl⟩ := List.cons.inj same
      exact .read rfl
    · exact .refused _ _

theorem listEnd_cut (part : List Char) :
    CutShort (Behind lost) (listEnd (part ++ lost)) (listEnd part) := by
  unfold listEnd
  obtain empty | ⟨c, rest, here, whole⟩ := skipBlanks_cut part lost
  · rw [empty]
    exact .truncated _ _
  · rw [here, whole]
    split
    · exact .refused _ _
    · rename_i same
      obtain ⟨rfl, rfl⟩ := List.cons.inj same
      exact .read rfl
    · split <;> exact .refused _ _
    · exact .refused _ _

/-- What comes next in a list whose end is cut off. -/
inductive ListStep.Cut (lost : List Char) : ListStep → ListStep → Prop
  | item (text : List Char) : Cut lost (.item (text ++ lost)) (.item text)
  | done (rest : List Char) : Cut lost (.done (rest ++ lost)) (.done rest)

/-- Looks for the next item of a list behind a comma. -/
def itemBehind (text : List Char) : Except ReadError ListStep :=
  match skipBlanks text with
  | [] => .error (.truncated .value)
  | ']' :: _ => .error .trailingComma
  | rest => .ok (.item rest)

theorem itemBehind_cut (part : List Char) :
    CutShort (ListStep.Cut lost) (itemBehind (part ++ lost)) (itemBehind part) := by
  unfold itemBehind
  obtain empty | ⟨c, rest, here, whole⟩ := skipBlanks_cut part lost
  · rw [empty]
    exact .truncated _ _
  · rw [here, whole]
    split
    · exact .refused _ _
    · exact .refused _ _
    · rename_i other
      split
      · exact absurd ‹_› (List.cons_ne_nil _ _)
      · exact absurd (congrArg (· ++ lost) ‹_›) (other _)
      · exact .read (.item (c :: rest))

theorem listStep_cut (first : Bool) (part : List Char) :
    CutShort (ListStep.Cut lost) (listStep first (part ++ lost)) (listStep first part) := by
  obtain empty | ⟨c, rest, here, whole⟩ := skipBlanks_cut part lost
  · unfold listStep
    rw [empty]
    exact .truncated _ _
  · by_cases ends : c = ']'
    · unfold listStep
      rw [here, whole, ends]
      exact .read (.done rest)
    · simp only [listStep, here, whole]
      split
      · exact .read (.item (c :: rest))
      · split
        · exact itemBehind_cut rest
        · exact .refused _ _

/-- What comes next in an object whose end is cut off. -/
inductive ObjectStep.Cut (lost : List Char) : ObjectStep → ObjectStep → Prop
  | key (text : List Char) : Cut lost (.key (text ++ lost)) (.key text)
  | done (rest : List Char) : Cut lost (.done (rest ++ lost)) (.done rest)

/-- Looks for the next key of an object behind a comma. -/
def keyBehind (text : List Char) : Except ReadError ObjectStep :=
  match skipBlanks text with
  | [] => .error (.truncated .value)
  | '"' :: rest => .ok (.key rest)
  | '\x7d' :: _ => .error .trailingComma
  | _ => .error .expectedKey

theorem keyBehind_cut (part : List Char) :
    CutShort (ObjectStep.Cut lost) (keyBehind (part ++ lost)) (keyBehind part) := by
  unfold keyBehind
  obtain empty | ⟨c, rest, here, whole⟩ := skipBlanks_cut part lost
  · rw [empty]
    exact .truncated _ _
  · rw [here, whole]
    split
    · exact .refused _ _
    · rename_i same
      obtain ⟨rfl, rfl⟩ := List.cons.inj same
      exact .read (.key rest)
    · exact .refused _ _
    · exact .refused _ _

theorem objectStep_cut (first : Bool) (part : List Char) :
    CutShort (ObjectStep.Cut lost) (objectStep first (part ++ lost)) (objectStep first part) := by
  unfold objectStep
  obtain empty | ⟨c, rest, here, whole⟩ := skipBlanks_cut part lost
  · rw [empty]
    exact .truncated _ _
  · rw [here, whole]
    split
    · exact .refused _ _
    · rename_i same
      obtain ⟨rfl, rfl⟩ := List.cons.inj same
      exact .read (.done rest)
    · rename_i same
      obtain ⟨rfl, rfl⟩ := List.cons.inj same
      cases first with
      | true => exact .read (.key rest)
      | false => exact .refused _ _
    · rename_i same
      obtain ⟨rfl, rfl⟩ := List.cons.inj same
      cases first with
      | true => exact .refused _ _
      | false => exact keyBehind_cut rest
    · exact .refused _ _

/-! ### Values further inside -/

/-- Whether one reader does with a part of a text what another does with the whole. -/
structure Cuts (lost : List Char) (read read' : Reader Json) : Prop where
  missing : ∃ inside, read' [] = .error (.truncated inside)
  cut : ∀ part, CutShort (SameOrSpent lost) (read (part ++ lost)) (read' part)

theorem null_cut (part : List Char) :
    CutShort (Same lost) (null (part ++ lost)) (null part) := by
  unfold null
  obtain empty | ⟨c, rest, here, whole⟩ := skipBlanks_cut part lost
  · rw [empty]
    exact .truncated _ _
  · rw [here, whole]
    split
    · rename_i same
      obtain ⟨rfl, rfl⟩ := List.cons.inj same
      exact (word_cut _ rest).bind_behind fun rest => .same _ _
    · exact wrongType_cut _ _ _

namespace Cuts

theorem orNull {read read' : Reader Json} (cuts : Cuts lost read read') :
    Cuts lost (orNull read) (orNull read') := by
  refine ⟨cuts.missing, fun part => ?_⟩
  unfold Reader.orNull
  obtain empty | ⟨c, rest, here, whole⟩ := skipBlanks_cut part lost
  · rw [empty]
    obtain ⟨inside, missing⟩ := cuts.missing
    dsimp only
    rw [missing]
    exact .truncated _ _
  · rw [here, whole]
    by_cases null : c = 'n'
    · rw [null]
      exact (word_cut _ rest).bind_behind fun rest => (CutShort.same _ _).spent
    · split
      · exact absurd (List.cons.inj ‹_›).1 null
      · split
        · exact absurd (List.cons.inj ‹_›).1 null
        · exact cuts.cut (c :: rest)

theorem memberValue {read read' : Form → Reader Json}
    (cuts : ∀ form, Cuts lost (read form) (read' form)) (member : Member) :
    Cuts lost (memberValue read member) (memberValue read' member) := by
  unfold Reader.memberValue
  cases member.absence with
  | allowed => exact (cuts member.form).orNull
  | _ => exact cuts member.form

end Cuts

/-! ### Lists -/

/-- In a text with nothing left neither an item nor the end of a list is found. -/
theorem items_nil (read : Reader Json) (bound : List Char) (first : Bool) :
    items read bound first [] = .error (.truncated .list) := by
  cases bound <;> rfl

theorem items_cut {read read' : Reader Json} (cuts : Cuts lost read read')
    (bound bound' : List Char) (first : Bool) (part : List Char) :
    CutShort (Same lost) (items read bound first (part ++ lost))
      (items read' bound' first part) := by
  induction bound' generalizing bound first part with
  | nil => exact .truncated _ _
  | cons step' more' inductionHypothesis =>
    cases bound with
    | nil => exact .refused _ _
    | cons step more =>
      rw [items, items]
      refine (listStep_cut first part).bind ?_
      rintro _ _ (text | rest)
      · refine (cuts.cut text).bind_spent (fun value => ⟨.list, ?_⟩) fun value rest => ?_
        · dsimp only
          rw [items_nil]
          rfl
        · exact (inductionHypothesis more false rest).bind_same fun values rest => .same _ _
      · exact .same _ _

/-! ### Records -/

theorem membersOfObject_nil (read : Form → Reader Json) (members : List Member)
    (bound : List Char) (first : Bool) (found : List (String × Json)) :
    membersOfObject read members bound first found [] = .error (.truncated .object) := by
  cases bound <;> rfl

theorem knownMembers_cut {read read' : Form → Reader Json}
    (cuts : ∀ form, Cuts lost (read form) (read' form)) (members : List Member)
    (bound bound' : List Char) (first : Bool) (found : List (String × Json)) (part : List Char) :
    CutShort (Same lost) (knownMembers read members bound first found (part ++ lost))
      (membersOfObject read' members bound' first found part) := by
  induction bound' generalizing bound first found part with
  | nil => exact .truncated _ _
  | cons step' more' inductionHypothesis =>
    cases bound with
    | nil => exact .refused _ _
    | cons step more =>
      rw [knownMembers, membersOfObject]
      refine (objectStep_cut first part).bind ?_
      rintro _ _ (text | rest)
      · refine (quoted_cut text).bind_same fun key rest => ?_
        dsimp only
        cases members.find? fun member => member.key == key with
        | none => exact .refused _ _
        | some member =>
          dsimp only
          cases found.lookup key with
          | some _ => exact .refused _ _
          | none =>
            refine (colon_cut rest).bind_behind fun rest => ?_
            refine ((Cuts.memberValue cuts member).cut rest).bind_spent
              (fun value => ⟨.object, membersOfObject_nil _ _ _ _ _⟩) fun value rest => ?_
            exact inductionHypothesis more false _ rest
      · exact .same _ _

theorem membersOfList_nil (read : Form → Reader Json) (expected : String) (count : Nat)
    (members : List Member) :
    membersOfList read expected count members [] = .error (.truncated .list) := by
  cases members <;> rfl

theorem membersOfList_cut {read read' : Form → Reader Json}
    (cuts : ∀ form, Cuts lost (read form) (read' form)) (expected : String) (count : Nat)
    (members : List Member) (part : List Char) :
    CutShort (Same lost) (membersOfList read expected count members (part ++ lost))
      (membersOfList read' expected count members part) := by
  induction members generalizing count part with
  | nil => exact (listEnd_cut part).bind_behind fun rest => .same _ _
  | cons member others inductionHypothesis =>
    rw [membersOfList, membersOfList]
    refine (listStep_cut (count == 0) part).bind ?_
    rintro _ _ (text | rest)
    · refine ((Cuts.memberValue cuts member).cut text).bind_spent (fun value => ⟨.list, ?_⟩)
        fun value rest => ?_
      · dsimp only
        rw [membersOfList_nil]
        rfl
      · refine (inductionHypothesis (count + 1) rest).bind_same fun values rest => ?_
        dsimp only
        split <;> exact .same _ _
    · dsimp only
      cases membersLeft expected count (member :: others) with
      | error error => exact .refused _ _
      | ok values => exact .same _ _

/-- Whether the readers for what stands further inside do the same with a part of a text. -/
inductive InsideCuts (lost : List Char) : Inside → Inside → Prop
  | none : InsideCuts lost none none
  | some {read read' : Form → Reader Json} (cuts : ∀ form, Cuts lost (read form) (read' form)) :
      InsideCuts lost (some read) (some read')

theorem knownRecord_cut {inside inside' : Inside} (cuts : InsideCuts lost inside inside')
    (form : RecordForm) (part : List Char) :
    CutShort (Same lost) (knownRecord inside form (part ++ lost)) (record inside' form part) := by
  unfold knownRecord record
  obtain empty | ⟨c, rest, here, whole⟩ := skipBlanks_cut part lost
  · rw [empty]
    exact .truncated _ _
  · rw [here, whole]
    split
    · exact .refused _ _
    · exact .refused _ _
    · rename_i same
      obtain ⟨rfl, rfl⟩ := List.cons.inj same
      cases cuts with
      | some cuts =>
        refine (knownMembers_cut cuts form.members _ _ true [] rest).bind_same fun found rest => ?_
        dsimp only
        cases assemble found form.members with
        | error error => exact .refused _ _
        | ok members => exact .same _ _
    · rename_i same
      obtain ⟨rfl, rfl⟩ := List.cons.inj same
      cases cuts with
      | some cuts =>
        exact (membersOfList_cut cuts form.titleWithCount 0 form.members rest).bind_same
          fun members rest => .same _ _
    · exact wrongType_cut _ _ _

/-! ### Choices -/

theorem payload_cut {read read' : Form → Reader Json}
    (cuts : ∀ form, Cuts lost (read form) (read' form)) (name : String) (belongs : Payload)
    (part : List Char) : CutShort (SameOrSpent lost) (payload read name belongs (part ++ lost))
      (payload read' name belongs part) := by
  cases belongs with
  | none => exact ((null_cut part).bind_same fun _ rest => .same (Json.str name) rest).spent
  | value form => exact ((cuts form).cut part).map_spent fun value => Json.obj [(name, value)]
  | optional form =>
    exact ((cuts form).orNull.cut part).map_spent fun value => Json.obj [(name, value)]
  | members form =>
    exact ((cuts (.record form)).cut part).map_spent fun value => Json.obj [(name, value)]

/-- Reads a choice behind the bracket that opens an object. -/
def named (inside : Form → Reader Json) (form : ChoiceForm) : Reader Json := fun text =>
  match skipBlanks text with
  | [] => .error (.truncated .object)
  | '\x7d' :: _ => .error .expectedValue
  | '"' :: text => do
    let (name, rest) ← quoted text
    let chosen ← alternative form name
    let rest ← colon rest
    let (value, rest) ← payload inside name chosen.payload rest
    match skipBlanks rest with
    | [] => .error (.truncated .object)
    | '\x7d' :: rest => .ok (value, rest)
    | _ => .error .expectedValue
  | _ => .error .expectedKey

theorem named_cut {read read' : Form → Reader Json}
    (cuts : ∀ form, Cuts lost (read form) (read' form)) (form : ChoiceForm) (part : List Char) :
    CutShort (Same lost) (named read form (part ++ lost)) (named read' form part) := by
  unfold named
  obtain empty | ⟨c, rest, here, whole⟩ := skipBlanks_cut part lost
  · rw [empty]
    exact .truncated _ _
  · rw [here, whole]
    split
    · exact .refused _ _
    · exact .refused _ _
    · rename_i same
      obtain ⟨rfl, rfl⟩ := List.cons.inj same
      refine (quoted_cut rest).bind_same fun name rest => ?_
      dsimp only
      cases alternative form name with
      | error error => exact .refused _ _
      | ok chosen =>
        refine (colon_cut rest).bind_behind fun rest => ?_
        refine (payload_cut cuts name chosen.payload rest).bind_spent
          (fun value => ⟨.object, rfl⟩) fun value rest => ?_
        dsimp only
        obtain empty | ⟨c, after, here, whole⟩ := skipBlanks_cut rest lost
        · rw [empty]
          exact .truncated _ _
        · rw [here, whole]
          split
          · exact .refused _ _
          · rename_i same
            obtain ⟨rfl, rfl⟩ := List.cons.inj same
            exact .same _ _
          · exact .refused _ _
    · exact .refused _ _

theorem choice_cut {inside inside' : Inside} (cuts : InsideCuts lost inside inside')
    (form : ChoiceForm) (part : List Char) :
    CutShort (Same lost) (choice inside form (part ++ lost)) (choice inside' form part) := by
  unfold choice
  obtain empty | ⟨c, rest, here, whole⟩ := skipBlanks_cut part lost
  · rw [empty]
    exact .truncated _ _
  · rw [here, whole]
    split
    · exact .refused _ _
    · rename_i same
      obtain ⟨rfl, rfl⟩ := List.cons.inj same
      refine (quoted_cut rest).bind_same fun name rest => ?_
      dsimp only
      cases alternative form name with
      | error error => exact .refused _ _
      | ok chosen =>
        show CutShort (Same lost) (bareName name chosen.payload >>= _)
          (bareName name chosen.payload >>= _)
        cases bareName name chosen.payload with
        | error error => exact .refused _ _
        | ok value => exact .same _ _
    · exact .refused _ _
    · rename_i same
      obtain ⟨rfl, rfl⟩ := List.cons.inj same
      cases cuts with
      | some cuts => exact named_cut cuts form rest
    · exact .refused _ _

/-! ### All forms -/

theorem list_cut {inside inside' : Inside} (cuts : InsideCuts lost inside inside') (item : Form)
    (part : List Char) : CutShort (Same lost) (ofForm inside (.list item) (part ++ lost))
      (ofForm inside' (.list item) part) := by
  simp only [ofForm]
  obtain empty | ⟨c, rest, here, whole⟩ := skipBlanks_cut part lost
  · rw [empty]
    exact .truncated _ _
  · rw [here, whole]
    split
    · exact .refused _ _
    · rename_i same
      obtain ⟨rfl, rfl⟩ := List.cons.inj same
      cases cuts with
      | some cuts =>
        exact (items_cut (cuts item) _ _ true rest).bind_same fun values rest => .same _ _
    · exact wrongType_cut _ _ _

theorem knownForm_cuts {inside inside' : Inside} (cuts : InsideCuts lost inside inside')
    (form : Form) : Cuts lost (knownForm inside form) (ofForm inside' form) := by
  refine ⟨⟨.value, ?_⟩, fun part => ?_⟩
  · cases form <;> rfl
  · cases form with
    | text => exact ((text_cut part).bind_same fun value rest => .same (Json.str value) rest).spent
    | int32 => exact (integer_cut "i32" (by decide) (by decide) part).map_spent Json.int
    | uint32 => exact (integer_cut "u32" (by decide) (by decide) part).map_spent Json.int
    | list item => exact (list_cut cuts item part).spent
    | record form => exact (knownRecord_cut cuts form part).spent
    | choice form => exact (choice_cut cuts form part).spent

theorem knownWithin_cuts (levels : Nat) (form : Form) :
    Cuts lost (knownWithin levels form) (within levels form) := by
  induction levels generalizing form with
  | zero => exact knownForm_cuts .none form
  | succ levels inductionHypothesis => exact knownForm_cuts (.some inductionHypothesis) form

/-- A record has an end of its own, whatever it is made of. -/
theorem knownWithin_record_cut (levels : Nat) (form : RecordForm) (part : List Char) :
    CutShort (Same lost) (knownWithin levels (.record form) (part ++ lost))
      (within levels (.record form) part) := by
  cases levels with
  | zero => exact knownRecord_cut .none form part
  | succ levels => exact knownRecord_cut (.some (knownWithin_cuts levels)) form part

/-! ### What is written for a program has no other keys -/

section Compact

variable {levels : Nat} {read : Form → Reader Json} {members : List Member}

theorem knownMembers_pair {pair : String × Json} {found : List (String × Json)}
    {text after bound : List Char} {first : Bool} {step : Char}
    (known : ∃ member, (members.find? fun other => other.key == pair.1) = some member ∧
      TakesBack (memberValue read member) levels pair.2)
    (start : objectStep first text = .ok (.key
      (pair.1.toList.flatMap Json.escape ++ '"' :: ':' :: (pair.2.compact ++ after))))
    (ends : EndsNumber after)
    (tail : ∀ found, knownMembers read members bound false found after =
      membersOfObject read members bound false found after) :
    knownMembers read members (step :: bound) first found text =
      membersOfObject read members (step :: bound) first found text := by
  obtain ⟨member, member?, back⟩ := known
  rw [knownMembers, membersOfObject, start]
  show (quoted _ >>= _) = (quoted _ >>= _)
  rw [quoted_escape]
  simp only [bind, Except.bind, member?]
  cases found.lookup pair.1 with
  | some _ => rfl
  | none =>
    show (memberValue read member (pair.2.compact ++ after) >>= _) =
      (memberValue read member (pair.2.compact ++ after) >>= _)
    rw [back after ends, upTo]
    split
    · exact tail _
    · rfl

theorem knownMembers_later {left : List (String × Json)} (bound rest : List Char)
    (known : ∀ pair ∈ left, ∃ member,
      (members.find? fun other => other.key == pair.1) = some member ∧
        TakesBack (memberValue read member) levels pair.2) (found : List (String × Json)) :
    knownMembers read members bound false found
        ((left.flatMap fun pair => ',' :: Json.compactMember pair) ++ '\x7d' :: rest) =
      membersOfObject read members bound false found
        ((left.flatMap fun pair => ',' :: Json.compactMember pair) ++ '\x7d' :: rest) := by
  induction left generalizing found bound with
  | nil => cases bound <;> rfl
  | cons pair others inductionHypothesis =>
    cases bound with
    | nil => rfl
    | cons step more =>
      rw [List.forall_mem_cons] at known
      rw [List.flatMap_cons, List.cons_append, List.cons_append, List.append_assoc,
        compactMember_append]
      exact knownMembers_pair known.1 rfl
        (endsNumber_flatMap others _ (endsNumber_cons rest (by decide)))
        (inductionHypothesis more known.2)

theorem knownMembers_compact {values : List (String × Json)} (bound rest : List Char)
    (known : ∀ pair ∈ values, ∃ member,
      (members.find? fun other => other.key == pair.1) = some member ∧
        TakesBack (memberValue read member) levels pair.2) :
    knownMembers read members bound true [] (Json.compactMembers values ++ '\x7d' :: rest) =
      membersOfObject read members bound true []
        (Json.compactMembers values ++ '\x7d' :: rest) := by
  cases values with
  | nil => cases bound <;> rfl
  | cons pair others =>
    cases bound with
    | nil => rfl
    | cons step more =>
      rw [List.forall_mem_cons] at known
      rw [Json.compactMembers_cons, List.append_assoc, compactMember_append]
      exact knownMembers_pair known.1 rfl
        (endsNumber_flatMap others _ (endsNumber_cons rest (by decide)))
        (knownMembers_later more rest known.2)

theorem knownRecord_compact {form : RecordForm} {values : List (String × Json)}
    (all : HasMembers (fun member value => Conforms member.form value) form.members values)
    (back : ∀ form document, Conforms form document → TakesBack (read form) levels document) :
    TakesBack (knownRecord (some read) form) (levels + 1) (.obj values) := by
  intro rest ends
  have whole := ofForm_record_compact all back rest ends
  have written : (Json.obj values).compact ++ rest =
      '\x7b' :: (Json.compactMembers values ++ '\x7d' :: rest) := by
    simp only [Json.compact, List.cons_append, List.append_assoc, List.nil_append]
  have known : ∀ pair ∈ values, ∃ member,
      (form.members.find? fun other => other.key == pair.1) = some member ∧
        TakesBack (memberValue read member) levels pair.2 := by
    intro pair given
    obtain ⟨member, known, key, conforms⟩ := all.member_of_mem pair given
    exact ⟨member, key ▸ form.find?_key known, (back _ _ conforms).memberValue conforms⟩
  rw [written] at whole ⊢
  rw [← whole]
  show (knownMembers read form.members _ true [] _ >>= _) =
    (membersOfObject read form.members _ true [] _ >>= _)
  rw [knownMembers_compact _ rest known]

theorem knownWithin_compact (levels : Nat) (form : Form) (document : Json)
    (conforms : Conforms form document) : TakesBack (knownWithin levels form) levels document := by
  induction levels generalizing form document with
  | zero =>
    cases form with
    | record form =>
      cases conforms
      intro rest ends
      rw [Json.compact, Json.depth]
      rfl
    | _ => exact ofForm_none_compact conforms
  | succ levels inductionHypothesis =>
    cases form with
    | record form =>
      cases conforms with
      | record all => exact knownRecord_compact all inductionHypothesis
    | _ => exact ofForm_compact inductionHypothesis conforms

end Compact

end Reader

namespace Program

/-- A program that is not too deep is written with no other keys. -/
theorem hasKnownKeys_text (program : Program) (fits : program.toJson.depth ≤ 127) :
    HasKnownKeys program.text := by
  have read := Reader.knownWithin_compact Reader.maxDepth _ _ program.toJson_conforms [] nofun
  rw [List.append_nil, Reader.upTo, if_pos (show _ ≤ Reader.maxDepth from fits)] at read
  refine ⟨program.toJson, [], ?_⟩
  rw [text, Json.text, String.toList_ofList]
  exact read

/-! ### Texts without their end -/

/-- What is left behind the document of a program that is read is nothing but blanks. -/
theorem ofText_ok {text : String} {program : Program} (read : Program.ofText text = .ok program) :
    ∃ document rest, Reader.within Reader.maxDepth (.record .program) text.toList =
      .ok (document, rest) ∧ Reader.skipBlanks rest = [] := by
  obtain ⟨document, whole, -⟩ := Reader.bind_eq_ok read
  obtain ⟨⟨value, rest⟩, within, ended⟩ := Reader.bind_eq_ok whole
  refine ⟨value, rest, within, ?_⟩
  dsimp only at ended
  split at ended
  · assumption
  · exact nomatch ended

/-- A text that is cut where the document is not at its end. -/
theorem ofText_truncated {text : String} {inside : Unfinished}
    (missing : Reader.within Reader.maxDepth (.record .program) text.toList =
      .error (.truncated inside)) : Program.ofText text = .error (.truncated inside) := by
  rw [ofText, readAs, Reader.document, missing]
  rfl

theorem ofText_cut {text cut : String} {program : Program}
    (read : Program.ofText text = .ok program) (known : HasKnownKeys text)
    (ends : ∀ c ∈ text.toList.getLast?, Reader.isBlank c = false)
    (front : cut.toList <+: text.toList) (proper : cut ≠ text) :
    ∃ inside, Program.ofText cut = .error (.truncated inside) := by
  obtain ⟨lost, whole⟩ := front
  obtain ⟨document, rest, strict⟩ := known
  obtain ⟨document', rest', plain, blank⟩ := ofText_ok read
  -- Both readers leave the same text behind the document.
  have same := @Reader.knownWithin_record_cut [] Reader.maxDepth .program text.toList
  rw [List.append_nil, strict, plain] at same
  have behind : rest = rest' := by
    cases same with
    | read same => exact (Prod.mk.inj same).2.trans (List.append_nil rest')
  have short := @Reader.knownWithin_record_cut lost Reader.maxDepth .program cut.toList
  rw [whole, strict] at short
  generalize found : Reader.within Reader.maxDepth (.record .program) cut.toList = part at short
  cases short with
  | truncated _ inside => exact ⟨inside, ofText_truncated found⟩
  | @read _ part same =>
    -- The document would end before the cut, so there would be only blanks behind the cut.
    have blanks : ∀ c ∈ lost, Reader.isBlank c = true := by
      rw [← behind, (Prod.mk.inj same).2] at blank
      exact fun c member => List.dropWhile_eq_nil_iff.mp blank c (List.mem_append_right _ member)
    have some : lost ≠ [] := by
      rintro rfl
      exact proper (String.toList_inj.mp ((List.append_nil _).symm.trans whole))
    have last : lost.getLast some ∈ text.toList.getLast? := by
      rw [← whole, List.getLast?_append, List.getLast?_eq_some_getLast some]
      rfl
    have blank := blanks _ (List.getLast_mem some)
    rw [ends _ last] at blank
    exact nomatch blank

end Program

/-- A text that is read as a program, with no keys but those of members and with no blanks at its
end, is refused as one that ends too early wherever it is cut. So is what is written for a program
that is not too deep. -/
theorem truncated_wherever_cut :
    (∀ (text : String) (program : Program), Program.ofText text = .ok program →
      Program.HasKnownKeys text → (∀ c ∈ text.toList.getLast?, Reader.isBlank c = false) →
      ∀ cut : String, cut.toList <+: text.toList → cut ≠ text →
        ∃ error, Program.ofText cut = .error error ∧ error.category = .truncated) ∧
    ∀ program : Program, program.toJson.depth ≤ 127 →
      ∀ cut : String, cut.toList <+: program.text.toList → cut ≠ program.text →
        ∃ error, Program.ofText cut = .error error ∧ error.category = .truncated := by
  have first : ∀ (text : String) (program : Program), Program.ofText text = .ok program →
      Program.HasKnownKeys text → (∀ c ∈ text.toList.getLast?, Reader.isBlank c = false) →
      ∀ cut : String, cut.toList <+: text.toList → cut ≠ text →
        ∃ error, Program.ofText cut = .error error ∧ error.category = .truncated := by
    intro text program read known ends cut front proper
    obtain ⟨inside, missing⟩ := Program.ofText_cut read known ends front proper
    exact ⟨_, missing, rfl⟩
  refine ⟨first, fun program fits => ?_⟩
  have read := program.ofText_text
  rw [if_pos fits] at read
  refine first program.text _ read (program.hasKnownKeys_text fits) ?_
  have closed : program.text.toList.getLast? = some '\x7d' := by
    rw [Program.text, Json.text, String.toList_ofList, Program.toJson, Json.compact]
    exact List.getLast?_concat
  rw [closed]
  rintro _ ⟨⟩
  rfl

/-- A variable that is written as a list, with an object and an escape in it. Cut in the escape or
in a number, the text ends too early. -/
theorem truncated_wherever_cut_escape :
    let text := "\x7b\"decls\": [\x7b\"var\": [\"integer\", " ++
      "\x7b\"pos\": [1, 25], \"name\": \"\\u0078\"\x7d]\x7d]\x7d"
    let inEscape := "\x7b\"decls\": [\x7b\"var\": [\"integer\", " ++
      "\x7b\"pos\": [1, 25], \"name\": \"\\u00"
    let inNumber := "\x7b\"decls\": [\x7b\"var\": [\"integer\", \x7b\"pos\": [1, 2"
    (∃ program, Program.ofText text = .ok program) ∧ Program.HasKnownKeys text ∧
      (∃ error, Program.ofText inEscape = .error error ∧ error.category = .truncated) ∧
      ∃ error, Program.ofText inNumber = .error error ∧ error.category = .truncated := by
  intro text inEscape inNumber
  have known : Program.HasKnownKeys text := by decide +kernel
  have ends : ∀ c ∈ text.toList.getLast?, Reader.isBlank c = false := by
    rw [show text.toList.getLast? = some '\x7d' by decide]
    rintro _ ⟨⟩
    rfl
  have accepted : (Program.ofText text).isOk = true := by decide +kernel
  cases read : Program.ofText text with
  | error error =>
    rw [read] at accepted
    exact nomatch accepted
  | ok program =>
    have refused := truncated_wherever_cut.1 text program read known ends
    exact ⟨⟨program, rfl⟩, known, refused inEscape (by decide) (by decide),
      refused inNumber (by decide) (by decide)⟩

/-- The value of any other key is only passed over, and a number that is cut off behind its sign is
then refused for the sign. -/
example : (Program.ofText "\x7b\"x\": -1, \"decls\": []\x7d").isOk = true ∧
    Reader.document (.record .program) "\x7b\"x\": -" = .error .invalidNumber :=
  ⟨by decide +kernel, by rfl⟩

end NameBinding
