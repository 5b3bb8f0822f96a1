/-
This file proves that what was read can be written and read again. The values that are filled in for
missing members make a document deeper than the text that it was read from: a block without members
takes one level and is written with two. That never leads beyond the limit, since next to each such
member stands another one that must be there and is as deep. Only the block itself has none, and a
block never is a whole document: a statement has its condition beside it, and a function its name.
So a document is at most as deep as there were levels, and reading it again gives the same tree.
-/

import NameBinding.Proofs.Layers
import NameBinding.Proofs.ReadBack

namespace NameBinding

/-! ### Depth -/

namespace Form

/-- The least depth of a document of a form. -/
def least : Form → Nat
  | list _ => 1
  | record .ident => 2
  | record _ => 1
  | choice .expr => 2
  | _ => 0

/-- The depth that a document can have however few levels there were to read it in. Only a block has
both of its lists filled in. -/
def floor : Form → Nat
  | list item => if item.floor = 0 then 0 else item.floor + 1
  | record .block => 2
  | _ => 0

end Form

namespace Absence

/-- The depth of the value that is filled in. -/
def depth : Absence → Nat
  | filled value => value.depth
  | _ => 0

end Absence

namespace RecordForm

/-- What is filled in is an empty list or an empty block. -/
theorem filled_empty (form : RecordForm) :
    ∀ member ∈ form.members, ∀ value, member.absence = .filled value →
      (∃ item, member.form = .list item ∧ value = .arr []) ∨
        (member.form = .record .block ∧ value = emptyBlock) := by
  cases form <;> simp [members]

theorem filled_conforms (form : RecordForm) {member : Member} (known : member ∈ form.members)
    {value : Json} (filled : member.absence = .filled value) : Conforms member.form value := by
  have empty : ∀ item, Conforms (.list item) (.arr []) := fun _ => .list nofun
  rcases form.filled_empty member known value filled with ⟨item, same, rfl⟩ | ⟨same, rfl⟩
  · rw [same]
    exact empty item
  · rw [same]
    exact .record (.cons (empty _) (.cons (empty _) .nil))

/-- In every record but a block there is a member that must be there, and that is as deep as
anything that is filled in. -/
theorem exists_anchor (form : RecordForm) (other : form ≠ .block) :
    ∃ anchor ∈ form.members, anchor.absence = .refused ∧ anchor.form.floor = 0 ∧
      ∀ member ∈ form.members, max member.form.floor member.absence.depth ≤ anchor.form.least := by
  cases form with
  | block => exact absurd rfl other
  | function => exact ⟨_, .tail _ (.head _), rfl, rfl, by decide⟩
  | _ => exact ⟨_, .head _, rfl, rfl, by decide⟩

end RecordForm

namespace ChoiceForm

theorem floor_payload (form : ChoiceForm) :
    ∀ alternative ∈ form.alternatives, ∀ inner ∈ alternative.payload.form?, inner.floor = 0 := by
  cases form <;> decide

end ChoiceForm

/-- A document that has the shape of a form and is hardly deeper than the levels that were there. -/
def Fits (levels : Nat) (form : Form) (document : Json) : Prop :=
  Conforms form document ∧ document.depth ≤ max levels form.floor

namespace Json

theorem depthOfItems_le {values : List Json} {bound : Nat}
    (each : ∀ value ∈ values, value.depth ≤ bound) : depthOfItems values ≤ bound := by
  induction values with
  | nil => exact Nat.zero_le bound
  | cons value rest inductionHypothesis =>
    rw [List.forall_mem_cons] at each
    exact Nat.max_le.mpr ⟨each.1, inductionHypothesis each.2⟩

theorem depthOfMembers_le {values : List (String × Json)} {bound : Nat}
    (each : ∀ pair ∈ values, pair.2.depth ≤ bound) : depthOfMembers values ≤ bound := by
  induction values with
  | nil => exact Nat.zero_le bound
  | cons pair rest inductionHypothesis =>
    rw [List.forall_mem_cons] at each
    exact Nat.max_le.mpr ⟨each.1, inductionHypothesis each.2⟩

theorem depth_le_depthOfItems {values : List Json} {value : Json} (among : value ∈ values) :
    value.depth ≤ depthOfItems values := by
  induction values with
  | nil => exact nomatch among
  | cons first rest inductionHypothesis =>
    rcases List.mem_cons.mp among with rfl | later
    · exact Nat.le_max_left _ _
    · exact Nat.le_trans (inductionHypothesis later) (Nat.le_max_right _ _)

theorem depth_le_depthOfMembers {values : List (String × Json)} {pair : String × Json}
    (among : pair ∈ values) : pair.2.depth ≤ depthOfMembers values := by
  induction values with
  | nil => exact nomatch among
  | cons first rest inductionHypothesis =>
    rcases List.mem_cons.mp among with rfl | later
    · exact Nat.le_max_left _ _
    · exact Nat.le_trans (inductionHypothesis later) (Nat.le_max_right _ _)

end Json

namespace Conforms

theorem depth_pos_of_record {form : RecordForm} {document : Json}
    (given : Conforms (.record form) document) : 0 < document.depth := by
  cases given with
  | record all =>
    rw [Json.depth]
    exact Nat.succ_pos _

theorem least_le_depth {form : Form} {document : Json} (given : Conforms form document) :
    form.least ≤ document.depth := by
  cases given with
  | text | int32 | uint32 => exact Nat.zero_le _
  | list all =>
    rw [Json.depth]
    exact Nat.le_add_left 1 _
  | @record form members all =>
    by_cases ident : form = .ident
    · subst ident
      -- A name has its position inside it.
      obtain ⟨pos, among, conforms⟩ := all.value_of_refused (.tail _ (.head _)) rfl
      have position := conforms.depth_pos_of_record
      have inside : pos.depth ≤ Json.depthOfMembers members :=
        Json.depth_le_depthOfMembers among
      show 2 ≤ Json.depthOfMembers members + 1
      omega
    · have least : (Form.record form).least = 1 := by
        cases form with
        | ident => exact absurd rfl ident
        | _ => rfl
      rw [least, Json.depth]
      exact Nat.le_add_left 1 _
  | @bare form name known =>
    cases form with
    | expr =>
      have among := List.mem_of_find?_eq_some known
      simp [ChoiceForm.alternatives] at among
    | _ => exact Nat.zero_le _
  | @tagged form name payload inner value known inside given =>
    cases form with
    | expr =>
      have among := List.mem_of_find?_eq_some known
      have record : ∀ alternative ∈ ChoiceForm.expr.alternatives,
          ∃ form, alternative.payload.form? = some (.record form) := by
        simp [ChoiceForm.alternatives, Payload.form?]
      obtain ⟨form, same⟩ := record _ among
      obtain rfl := Option.some.inj (inside.symm.trans same)
      have deep := given.depth_pos_of_record
      show 2 ≤ max value.depth 0 + 1
      omega
    | _ => exact Nat.zero_le _
  | @unset form name inner known =>
    cases form with
    | expr =>
      have among := List.mem_of_find?_eq_some known
      simp [ChoiceForm.alternatives] at among
    | _ => exact Nat.zero_le _

end Conforms

theorem Reader.Filled.conforms {good : Form → Json → Prop} {form : RecordForm} {member : Member}
    {value : Json} (conform : ∀ form document, good form document → Conforms form document)
    (known : member ∈ form.members) (given : Filled good member value) :
    Conforms member.form value := by
  rcases given with read | filled
  · exact conform _ _ read
  · exact form.filled_conforms known filled

theorem Reader.Layer.conforms {good : Form → Json → Prop} {form : Form} {document : Json}
    (conform : ∀ form document, good form document → Conforms form document)
    (layer : Layer good form document) : Conforms form document := by
  cases layer with
  | text value => exact .text value
  | int32 low high => exact .int32 low high
  | uint32 low high => exact .uint32 low high
  | list all => exact .list fun value given => conform _ _ (all value given)
  | record all => exact .record (all.imp fun _ known _ given => given.conforms conform known)
  | bare known => exact .bare known
  | tagged known inside given => exact .tagged known inside (conform _ _ given)
  | unset known => exact .unset known

/-- A record is not deeper than what was read for it, unless it is a block. -/
theorem Reader.depth_le_of_filled {levels : Nat} {form : RecordForm} {values : List (String × Json)}
    (all : HasMembers (Filled (Fits levels)) form.members values) :
    (Json.obj values).depth ≤ max (levels + 1) (Form.record form).floor := by
  have each : ∀ bound,
      (∀ member ∈ form.members, max member.form.floor member.absence.depth ≤ bound) →
        Json.depthOfMembers values ≤ max levels bound := by
    intro bound below
    refine Json.depthOfMembers_le fun pair among => ?_
    obtain ⟨member, known, -, given⟩ := all.member_of_mem pair among
    have small := Nat.max_le.mp (below member known)
    rcases given with read | filled
    · have := read.2
      omega
    · have filledDepth : member.absence.depth = pair.2.depth := by rw [filled, Absence.depth]
      omega
  by_cases block : form = .block
  · subst block
    have deepest := each 1 (by decide)
    show Json.depthOfMembers values + 1 ≤ max (levels + 1) 2
    omega
  · obtain ⟨anchor, known, refused, floorless, below⟩ := form.exists_anchor block
    have deepest := each _ below
    obtain ⟨value, among, given⟩ := all.value_of_refused known refused
    rcases given with ⟨conforms, shallow⟩ | filled
    · have least := conforms.least_le_depth
      rw [Json.depth]
      omega
    · rw [refused] at filled
      cases filled

theorem Reader.Layer.fits {levels : Nat} {form : Form} {document : Json}
    (layer : Layer (Fits levels) form document) : Fits (levels + 1) form document := by
  refine ⟨layer.conforms fun _ _ => And.left, ?_⟩
  cases layer with
  | text | int32 | uint32 | bare => exact Nat.zero_le _
  | @list item values all =>
    have deepest := Json.depthOfItems_le fun value among => (all value among).2
    rw [Json.depth, Form.floor]
    split <;> omega
  | record all => exact Reader.depth_le_of_filled all
  | @tagged form name payload inner value known inside given =>
    have floorless := form.floor_payload _ (List.mem_of_find?_eq_some known) inner inside
    have shallow := given.2
    show max value.depth 0 + 1 ≤ _
    omega
  | unset =>
    show 1 ≤ max (levels + 1) _
    omega

theorem Reader.within_gives (levels : Nat) (form : Form) :
    Gives (within levels form) (Fits levels form) := by
  induction levels generalizing form with
  | zero =>
    intro input document rest given
    have inside : ∀ read, (none : Inside) = some read → ∀ form,
        Gives (read form) (Fits 0 form) := nofun
    obtain ⟨layer, flat⟩ := ofForm_gives inside form _ _ _ given
    exact ⟨layer.conforms fun _ _ => And.left, (flat rfl).symm ▸ Nat.zero_le _⟩
  | succ levels inductionHypothesis =>
    intro input document rest given
    have inside : ∀ read, some (within levels) = some read → ∀ form,
        Gives (read form) (Fits levels form) := by
      rintro read ⟨⟩
      exact inductionHypothesis
    exact (ofForm_gives inside form _ _ _ given).1.fits

/-- Whatever is read as a whole has the shape of its form, and is not deeper than the limit by more
than is filled in. -/
theorem Reader.document_fits {form : Form} {text : String} {document : Json}
    (given : Reader.document form text = .ok document) : Fits maxDepth form document := by
  obtain ⟨⟨value, rest⟩, within, ended⟩ := bind_eq_ok given
  dsimp only at ended
  split at ended
  · obtain rfl := Except.ok.inj ended
    exact within_gives _ _ _ _ _ within
  · exact nomatch ended

namespace Program

/-- A program is read from a document that is its own. -/
theorem document_of_ofText {text : String} {program : Program}
    (given : ofText text = .ok program) :
    Reader.document (.record .program) text = .ok program.toJson ∧
      ofJson? program.toJson = some program := by
  obtain ⟨document, read, given⟩ := Reader.bind_eq_ok given
  split at given
  · rename_i taken
    obtain rfl := Except.ok.inj given
    obtain rfl := toJson_of_ofJson? taken
    exact ⟨read, taken⟩
  · exact nomatch given

theorem reread (text : String) (program : Program) (given : ofText text = .ok program) :
    program.toJson.depth ≤ 127 ∧ ofText program.text = .ok program := by
  obtain ⟨read, taken⟩ := document_of_ofText given
  have fits := Reader.document_fits read
  have shallow : program.toJson.depth ≤ Reader.maxDepth :=
    Nat.le_trans fits.2 (Nat.max_le.mpr ⟨Nat.le_refl _, Nat.zero_le _⟩)
  refine ⟨shallow, ?_⟩
  show (Reader.document (.record .program) program.toJson.text >>= _) = _
  rw [Reader.document_text fits.1, Reader.upTo, if_pos shallow]
  simp only [bind, Except.bind, taken]

/-- Everything that may be left out is left out here. Members stand in a list, there is one that
nobody knows, and a type is written as an object. -/
def sparse : String :=
  "\x7b\"x\": [[]], \"decls\": [\x7b\"func\": [\x7b\"void\": null\x7d, [\"f\", [1, 2]]]\x7d]\x7d"

/-- What is written for it. -/
def complete : String :=
  "\x7b\"decls\":[\x7b\"func\":\x7b\"ret\":\"void\",\"name\":\x7b\"name\":\"f\"," ++
    "\"pos\":\x7b\"line\":1,\"column\":2\x7d\x7d,\"formals\":[]," ++
    "\"body\":\x7b\"decls\":[],\"stmts\":[]\x7d\x7d\x7d]\x7d"

theorem reread_sparse : ∃ program, ofText sparse = .ok program ∧ program.text = complete ∧
    program.toJson.depth ≤ 127 ∧ ofText program.text = .ok program := by
  have written : (ofText sparse).toOption.map text = some complete := by decide +kernel
  cases given : ofText sparse with
  | error error =>
    rw [given] at written
    exact nomatch written
  | ok program =>
    rw [given] at written
    exact ⟨program, rfl, Option.some.inj written, reread sparse program given⟩

end Program

end NameBinding
