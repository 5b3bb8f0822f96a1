/-
This file says what can be read by a form. The reader of a form reads one layer of a document itself
and leaves everything inside it to the reader for the next level. Whatever the text looks like, the
layer has the shape of the form: the members of a record come in order, and each of them was read or
is the value that is filled in for it. So a property of all that is read further inside is handed on
from level to level.
-/

import NameBinding.Proofs.Conformance
import NameBinding.Tree.Reader

namespace NameBinding

namespace Reader

theorem bind_eq_ok {α β : Type} {first : Except ReadError α} {next : α → Except ReadError β}
    {final : β} (given : (first >>= next) = .ok final) :
    ∃ result, first = .ok result ∧ next result = .ok final := by
  cases first with
  | error error => exact nomatch given
  | ok result => exact ⟨result, rfl, given⟩

theorem wrongType_ne_ok {α : Type} (expected : String) (input : List Char) (given : α × List Char) :
    wrongType expected input ≠ .ok given := by
  intro read
  unfold wrongType at read
  split at read
  case h_8 =>
    split at read
    · obtain ⟨_, -, last⟩ := bind_eq_ok read
      exact nomatch last
    · exact nomatch read
  case h_2 | h_3 | h_4 | h_5 =>
    obtain ⟨_, -, last⟩ := bind_eq_ok read
    exact nomatch last
  all_goals exact nomatch read

/-- What a reader gives has some property. -/
def Gives (read : Reader Json) (good : Json → Prop) : Prop :=
  ∀ input value rest, read input = .ok (value, rest) → good value

theorem orNull_gives {read : Reader Json} {good : Json → Prop} (gives : Gives read good) :
    Gives (orNull read) fun value => value = .null ∨ good value := by
  intro input value rest given
  unfold orNull at given
  split at given
  · obtain ⟨_, _, given⟩ := bind_eq_ok given
    exact .inl (congrArg Prod.fst (Except.ok.inj given)).symm
  · exact .inr (gives _ _ _ given)

theorem memberValue_gives {read : Form → Reader Json} {good : Form → Json → Prop}
    (gives : ∀ form, Gives (read form) (good form)) (member : Member) :
    Gives (memberValue read member) fun value =>
      (member.absence = .allowed ∧ value = .null) ∨ good member.form value := by
  intro input value rest given
  rw [memberValue.eq_def] at given
  cases absence : member.absence with
  | allowed =>
    rw [absence] at given
    exact (orNull_gives (gives _) _ _ _ given).imp_left fun null => ⟨rfl, null⟩
  | _ =>
    rw [absence] at given
    exact .inr (gives _ _ _ _ given)

theorem items_gives {read : Reader Json} {good : Json → Prop} (gives : Gives read good)
    {bound : List Char} {first : Bool} {input rest : List Char} {values : List Json}
    (given : items read bound first input = .ok (values, rest)) : ∀ value ∈ values, good value := by
  induction bound generalizing first input rest values with
  | nil => exact nomatch given
  | cons step more inductionHypothesis =>
    obtain ⟨next, -, given⟩ := bind_eq_ok given
    cases next with
    | done after =>
      obtain ⟨rfl, rfl⟩ := Prod.mk.inj (Except.ok.inj given)
      exact nofun
    | item text =>
      obtain ⟨⟨value, after⟩, head, given⟩ := bind_eq_ok given
      obtain ⟨⟨others, last⟩, tail, given⟩ := bind_eq_ok given
      obtain ⟨rfl, rfl⟩ := Prod.mk.inj (Except.ok.inj given)
      exact List.forall_mem_cons.mpr ⟨gives _ _ _ head, inductionHypothesis tail⟩

/-- A value that was read for a member. -/
def ReadFor (good : Form → Json → Prop) (member : Member) (value : Json) : Prop :=
  (member.absence = .allowed ∧ value = .null) ∨ good member.form value

theorem membersOfObject_gives {read : Form → Reader Json} {good : Form → Json → Prop}
    (gives : ∀ form, Gives (read form) (good form)) {members : List Member} {bound : List Char}
    {first : Bool} {found result : List (String × Json)} {input rest : List Char}
    (given : membersOfObject read members bound first found input = .ok (result, rest))
    (before : ∀ pair ∈ found, ∃ member,
      (members.find? fun other => other.key == pair.1) = some member ∧ ReadFor good member pair.2) :
    ∀ pair ∈ result, ∃ member,
      (members.find? fun other => other.key == pair.1) = some member ∧
        ReadFor good member pair.2 := by
  induction bound generalizing first found input with
  | nil => exact nomatch given
  | cons step more inductionHypothesis =>
    obtain ⟨next, -, given⟩ := bind_eq_ok given
    cases next with
    | done after =>
      obtain ⟨rfl, rfl⟩ := Prod.mk.inj (Except.ok.inj given)
      exact before
    | key text =>
      obtain ⟨⟨key, after⟩, -, given⟩ := bind_eq_ok given
      dsimp only at given
      split at given
      · obtain ⟨_, -, given⟩ := bind_eq_ok given
        obtain ⟨_, -, given⟩ := bind_eq_ok given
        exact inductionHypothesis given before
      · rename_i member known
        split at given
        · exact nomatch given
        · obtain ⟨_, -, given⟩ := bind_eq_ok given
          obtain ⟨⟨value, _⟩, head, given⟩ := bind_eq_ok given
          refine inductionHypothesis given fun pair among => ?_
          rcases List.mem_append.mp among with earlier | last
          · exact before pair earlier
          · obtain rfl := List.mem_singleton.mp last
            exact ⟨member, known, memberValue_gives gives member _ _ _ head⟩

/-- What members there are in a record that was read: a value that is good, or the one that is
filled in. -/
def Filled (good : Form → Json → Prop) (member : Member) (value : Json) : Prop :=
  good member.form value ∨ member.absence = .filled value

theorem assemble_gives {good : Form → Json → Prop} {found values : List (String × Json)}
    {members : List Member}
    (read : ∀ member ∈ members, ∀ value ∈ found.lookup member.key, ReadFor good member value)
    (given : assemble found members = .ok values) :
    HasMembers (Filled good) members values := by
  induction members generalizing values with
  | nil =>
    obtain rfl := Except.ok.inj given
    exact .nil
  | cons member others inductionHypothesis =>
    rw [List.forall_mem_cons] at read
    rw [assemble] at given
    split at given
    case h_1 allowed =>
      -- A null for a member that may stay away is the same as none.
      obtain ⟨head, chosen, given⟩ := bind_eq_ok given
      obtain ⟨tail, rest, given⟩ := bind_eq_ok given
      obtain rfl := Except.ok.inj chosen
      obtain rfl := Except.ok.inj given
      exact .missing allowed (inductionHypothesis read.2 rest)
    case h_2 value found? other =>
      obtain ⟨head, chosen, given⟩ := bind_eq_ok given
      obtain ⟨tail, rest, given⟩ := bind_eq_ok given
      obtain rfl := Except.ok.inj chosen
      obtain rfl := Except.ok.inj given
      have good : good member.form value := (read.1 value found?).resolve_left
        fun unset => other unset.1 unset.2
      exact .cons (.inl good) (inductionHypothesis read.2 rest)
    case h_3 =>
      obtain ⟨head, chosen, given⟩ := bind_eq_ok given
      obtain ⟨tail, rest, given⟩ := bind_eq_ok given
      have later := inductionHypothesis read.2 rest
      unfold absent at chosen
      split at chosen
      · exact nomatch chosen
      · rename_i value filled
        obtain rfl := Except.ok.inj chosen
        obtain rfl := Except.ok.inj given
        exact .cons (.inr filled) later
      · rename_i allowed
        obtain rfl := Except.ok.inj chosen
        obtain rfl := Except.ok.inj given
        exact .missing allowed later

theorem membersLeft_gives {good : Form → Json → Prop} {expected : String} {count : Nat}
    {members : List Member} {values : List (String × Json)}
    (given : membersLeft expected count members = .ok values) :
    HasMembers (Filled good) members values := by
  induction members generalizing count values with
  | nil =>
    obtain rfl := Except.ok.inj given
    exact .nil
  | cons member others inductionHypothesis =>
    unfold membersLeft at given
    split at given
    case h_1 => exact nomatch given
    case h_2 value filled =>
      obtain ⟨rest, tail, given⟩ := bind_eq_ok given
      obtain rfl := Except.ok.inj given
      exact .cons (.inr filled) (inductionHypothesis tail)
    case h_3 allowed => exact .missing allowed (inductionHypothesis given)

theorem membersOfList_gives {read : Form → Reader Json} {good : Form → Json → Prop}
    (gives : ∀ form, Gives (read form) (good form)) {expected : String} {count : Nat}
    {members : List Member} {input rest : List Char} {values : List (String × Json)}
    (given : membersOfList read expected count members input = .ok (values, rest)) :
    HasMembers (Filled good) members values := by
  induction members generalizing count input rest values with
  | nil =>
    obtain ⟨_, -, given⟩ := bind_eq_ok given
    obtain ⟨rfl, rfl⟩ := Prod.mk.inj (Except.ok.inj given)
    exact .nil
  | cons member others inductionHypothesis =>
    obtain ⟨next, -, entered⟩ := bind_eq_ok given
    cases next with
    | done after =>
      obtain ⟨left, filled, ended⟩ := bind_eq_ok entered
      obtain ⟨rfl, rfl⟩ := Prod.mk.inj (Except.ok.inj ended)
      exact membersLeft_gives filled
    | item text =>
      obtain ⟨⟨value, after⟩, head, continued⟩ := bind_eq_ok entered
      obtain ⟨⟨left, last⟩, tail, ended⟩ := bind_eq_ok continued
      have later := inductionHypothesis tail
      have read := memberValue_gives gives member _ _ _ head
      clear head continued entered
      dsimp only at ended
      split at ended
      case h_1 allowed =>
        obtain ⟨rfl, rfl⟩ := Prod.mk.inj (Except.ok.inj ended)
        exact .missing allowed later
      case h_2 other =>
        obtain ⟨rfl, rfl⟩ := Prod.mk.inj (Except.ok.inj ended)
        exact .cons (.inl (read.resolve_left fun unset => other unset.2 unset.1)) later

/-! ### Records and choices -/

/-- A document of which the parts are good, as far as they were read and not filled in. -/
inductive Layer (good : Form → Json → Prop) : Form → Json → Prop
  | text (value : String) : Layer good .text (.str value)
  | int32 {value : Int} (low : -Int.pow 2 31 ≤ value) (high : value ≤ Int.pow 2 31 - 1) :
      Layer good .int32 (.int value)
  | uint32 {value : Int} (low : 0 ≤ value) (high : value ≤ Int.pow 2 32 - 1) :
      Layer good .uint32 (.int value)
  | list {item : Form} {values : List Json} (all : ∀ value ∈ values, good item value) :
      Layer good (.list item) (.arr values)
  | record {form : RecordForm} {members : List (String × Json)}
      (all : HasMembers (Filled good) form.members members) :
      Layer good (.record form) (.obj members)
  | bare {form : ChoiceForm} {name : String} (known : form.find? name = some ⟨name, .none⟩) :
      Layer good (.choice form) (.str name)
  | tagged {form : ChoiceForm} {name : String} {payload : Payload} {inner : Form} {value : Json}
      (known : form.find? name = some ⟨name, payload⟩) (inside : payload.form? = some inner)
      (given : good inner value) : Layer good (.choice form) (.obj [(name, value)])
  | unset {form : ChoiceForm} {name : String} {inner : Form}
      (known : form.find? name = some ⟨name, .optional inner⟩) :
      Layer good (.choice form) (.obj [(name, .null)])

theorem record_gives {inside : Inside} {good : Form → Json → Prop}
    (gives : ∀ read, inside = some read → ∀ form, Gives (read form) (good form))
    (form : RecordForm) :
    Gives (record inside form) fun document =>
      Layer good (.record form) document ∧ inside ≠ none := by
  intro input document rest given
  unfold record at given
  split at given
  case h_3 text read start =>
    -- In an object the members are found by their keys, in whatever order they came.
    obtain ⟨⟨found, after⟩, members, given⟩ := bind_eq_ok given
    obtain ⟨values, assembled, given⟩ := bind_eq_ok given
    obtain ⟨rfl, rfl⟩ := Prod.mk.inj (Except.ok.inj given)
    have known := membersOfObject_gives (gives read rfl) members nofun
    refine ⟨.record (assemble_gives (fun member among value found? => ?_) assembled), nofun⟩
    obtain ⟨before, behind, rfl, -⟩ := List.lookup_eq_some_iff.mp found?
    obtain ⟨other, other?, good⟩ := known (member.key, value) (by simp)
    obtain rfl := Option.some.inj ((form.find?_key among).symm.trans other?)
    exact good
  case h_4 text read start =>
    -- In a list they come in order, and only the last ones can be absent.
    obtain ⟨⟨values, after⟩, members, given⟩ := bind_eq_ok given
    obtain ⟨rfl, rfl⟩ := Prod.mk.inj (Except.ok.inj given)
    exact ⟨.record (membersOfList_gives (gives read rfl) members), nofun⟩
  case h_5 => exact absurd given (wrongType_ne_ok _ _ _)
  all_goals exact nomatch given

theorem alternative_known {form : ChoiceForm} {name : String} {chosen : Alternative}
    (given : alternative form name = .ok chosen) :
    form.find? name = some ⟨name, chosen.payload⟩ := by
  unfold alternative at given
  split at given
  · rename_i found?
    obtain rfl := Except.ok.inj given
    have same := List.find?_some found?
    rw [beq_iff_eq] at same
    rw [found?, ← same]
  · exact nomatch given

theorem payload_gives {read : Form → Reader Json} {good : Form → Json → Prop}
    (gives : ∀ form, Gives (read form) (good form)) {form : ChoiceForm} {name : String}
    {belongs : Payload} (known : form.find? name = some ⟨name, belongs⟩) :
    Gives (payload read name belongs) (Layer good (.choice form)) := by
  intro input document rest given
  cases belongs with
  | none =>
    obtain ⟨_, -, given⟩ := bind_eq_ok given
    obtain ⟨rfl, rfl⟩ := Prod.mk.inj (Except.ok.inj given)
    exact .bare known
  | value inner =>
    obtain ⟨_, head, given⟩ := bind_eq_ok given
    obtain ⟨rfl, rfl⟩ := Prod.mk.inj (Except.ok.inj given)
    exact .tagged known rfl (gives _ _ _ _ head)
  | optional inner =>
    obtain ⟨⟨value, after⟩, head, given⟩ := bind_eq_ok given
    obtain ⟨rfl, rfl⟩ := Prod.mk.inj (Except.ok.inj given)
    rcases orNull_gives (gives inner) _ _ _ head with rfl | fits
    · exact .unset known
    · exact .tagged known rfl fits
  | members inner =>
    obtain ⟨_, head, given⟩ := bind_eq_ok given
    obtain ⟨rfl, rfl⟩ := Prod.mk.inj (Except.ok.inj given)
    exact .tagged known rfl (gives _ _ _ _ head)

theorem bareName_gives {name : String} {belongs : Payload} {document : Json}
    (given : bareName name belongs = .ok document) : belongs = .none ∧ document = .str name := by
  cases belongs with
  | none => exact ⟨rfl, (Except.ok.inj given).symm⟩
  | _ => exact nomatch given

theorem choice_gives {inside : Inside} {good : Form → Json → Prop}
    (gives : ∀ read, inside = some read → ∀ form, Gives (read form) (good form))
    (form : ChoiceForm) :
    Gives (choice inside form) fun document =>
      Layer good (.choice form) document ∧ (inside = none → document.depth = 0) := by
  intro input document rest given
  unfold choice at given
  split at given
  case h_2 =>
    obtain ⟨⟨name, after⟩, -, given⟩ := bind_eq_ok given
    obtain ⟨chosen, known, given⟩ := bind_eq_ok given
    obtain ⟨value, bare, given⟩ := bind_eq_ok given
    obtain ⟨rfl, rfl⟩ := Prod.mk.inj (Except.ok.inj given)
    obtain ⟨nothing, rfl⟩ := bareName_gives bare
    exact ⟨.bare (nothing ▸ alternative_known known), fun _ => rfl⟩
  case h_4 text read start =>
    -- The object must end behind what belongs to the name, so nothing else is in it.
    split at given
    case h_3 =>
      obtain ⟨⟨name, _⟩, -, given⟩ := bind_eq_ok given
      obtain ⟨chosen, known, given⟩ := bind_eq_ok given
      obtain ⟨_, -, given⟩ := bind_eq_ok given
      obtain ⟨⟨value, after⟩, belongs, given⟩ := bind_eq_ok given
      dsimp only at given
      split at given
      case h_2 =>
        obtain ⟨rfl, rfl⟩ := Prod.mk.inj (Except.ok.inj given)
        exact ⟨payload_gives (gives read rfl) (alternative_known known) _ _ _ belongs, nofun⟩
      all_goals exact nomatch given
    all_goals exact nomatch given
  all_goals exact nomatch given

theorem integer_gives {low high value : Int} {expected : String} {input rest : List Char}
    (given : integer low high expected input = .ok (value, rest)) : low ≤ value ∧ value ≤ high := by
  unfold integer at given
  split at given
  · exact nomatch given
  · split at given
    · obtain ⟨⟨read, after⟩, -, given⟩ := bind_eq_ok given
      cases read with
      | whole read =>
        dsimp only at given
        split at given
        · rename_i between
          obtain ⟨rfl, rfl⟩ := Prod.mk.inj (Except.ok.inj given)
          exact between
        · exact nomatch given
      | float negative magnitude => exact nomatch given
    · exact absurd given (wrongType_ne_ok _ _ _)

/-- A layer of what is read by a form is made of what is read further inside, and there is none if
there is no level left. -/
theorem ofForm_gives {inside : Inside} {good : Form → Json → Prop}
    (gives : ∀ read, inside = some read → ∀ form, Gives (read form) (good form)) (form : Form) :
    Gives (ofForm inside form) fun document =>
      Layer good form document ∧ (inside = none → document.depth = 0) := by
  intro input document rest given
  cases form with
  | text =>
    obtain ⟨⟨value, _⟩, -, given⟩ := bind_eq_ok given
    obtain ⟨rfl, rfl⟩ := Prod.mk.inj (Except.ok.inj given)
    exact ⟨.text value, fun _ => rfl⟩
  | int32 =>
    obtain ⟨⟨value, _⟩, read, given⟩ := bind_eq_ok given
    obtain ⟨rfl, rfl⟩ := Prod.mk.inj (Except.ok.inj given)
    obtain ⟨low, high⟩ := integer_gives read
    exact ⟨.int32 low high, fun _ => rfl⟩
  | uint32 =>
    obtain ⟨⟨value, _⟩, read, given⟩ := bind_eq_ok given
    obtain ⟨rfl, rfl⟩ := Prod.mk.inj (Except.ok.inj given)
    obtain ⟨low, high⟩ := integer_gives read
    exact ⟨.uint32 low high, fun _ => rfl⟩
  | list item =>
    simp only [ofForm] at given
    split at given
    case h_1 => exact nomatch given
    case h_2 text read start =>
      obtain ⟨⟨values, after⟩, read, given⟩ := bind_eq_ok given
      obtain ⟨rfl, rfl⟩ := Prod.mk.inj (Except.ok.inj given)
      exact ⟨.list (items_gives (gives _ rfl item) read), nofun⟩
    case h_3 => exact absurd given (wrongType_ne_ok _ _ _)
  | record form =>
    obtain ⟨layer, deeper⟩ := record_gives gives form _ _ _ given
    exact ⟨layer, fun none => absurd none deeper⟩
  | choice form => exact choice_gives gives form _ _ _ given

end Reader

end NameBinding
