/-
This file proves that settings are written as a whole or not at all. Writing goes in steps: a look
at what stands in the way, then the text of the settings, then the file. A step can fail after
others were carried out, so the steps are followed with the files that each of them leaves, and a
failure leaves the files as they are at that moment. Files change at the last step only. The place
that a path leads to is found through directories, none of which a file that is written there
replaces, so that the path leads to the same place afterwards, and what is read there are the
settings that were written.
-/

import NameBinding.Proofs.SettingsText

namespace NameBinding

namespace Files

variable {files : Files} {place : Place} {entry : Entry}

/-! ### What stands where after something was put -/

theorem lookup_replaced (entries : List (Place × Entry)) (place other : Place) (entry : Entry) :
    (entries.map fun old => if old.1 = place then (place, entry) else old).lookup other =
      if other = place then (entries.lookup place).map fun _ => entry
      else entries.lookup other := by
  induction entries with
  | nil => exact (ite_self none).symm
  | cons old rest inductionHypothesis =>
    obtain ⟨found, kept⟩ := old
    rw [List.map_cons]
    by_cases here : found = place
    · subst here
      by_cases same : other = found
      · subst same
        rw [if_pos rfl, if_pos rfl, List.lookup_cons_self, List.lookup_cons_self, Option.map_some]
      · have different : (other == found) = false := beq_eq_false_iff_ne.mpr same
        rw [if_neg same] at inductionHypothesis ⊢
        rw [if_pos rfl, List.lookup_cons, List.lookup_cons, different, inductionHypothesis]
    · rw [if_neg here, List.lookup_cons, List.lookup_cons, inductionHypothesis]
      by_cases same : other = place
      · have different : (place == found) = false := beq_eq_false_iff_ne.mpr (Ne.symm here)
        subst same
        rw [if_pos rfl, if_pos rfl, different]
      · rw [if_neg same, if_neg same, List.lookup_cons]

theorem here_put (files : Files) (place : Place) (entry : Entry) :
    (files.put place entry).here = files.here := by
  unfold put
  split <;> rfl

theorem entryAt_put_self (inside : place ≠ []) :
    (files.put place entry).entryAt place = some entry := by
  rw [entryAt, if_neg (by simpa using inside), put]
  split
  · rename_i old found
    rw [lookup_replaced, if_pos rfl, found, Option.map_some]
  · rename_i missing
    rw [List.lookup_append, missing, Option.none_or, List.lookup_cons_self]

theorem entryAt_put_other {other : Place} (apart : other ≠ place) :
    (files.put place entry).entryAt other = files.entryAt other := by
  by_cases root : other.isEmpty
  · rw [entryAt, entryAt, if_pos root, if_pos root]
  · rw [entryAt, entryAt, if_neg root, if_neg root, put]
    split
    · rw [lookup_replaced, if_neg apart]
    · rw [List.lookup_append, List.lookup_cons, beq_eq_false_iff_ne.mpr apart, List.lookup_nil,
        Option.or_none]

/-! ### Paths after something was put -/

/-- A path goes on from a directory only. -/
theorem directory_of_step {start next : Place} {name : String}
    (goes : files.step start name = .ok next) : files.entryAt start = some .directory := by
  unfold step at goes
  split at goes
  · contradiction
  · assumption
  · contradiction

/-- Where no directory stands, something else can be put without a path leading elsewhere. -/
theorem step_put (free : files.entryAt place ≠ some .directory) {start next : Place} {name : String}
    (goes : files.step start name = .ok next) :
    (files.put place entry).step start name = .ok next := by
  have directory := directory_of_step goes
  have apart : start ≠ place := fun same => free (same ▸ directory)
  have same : (files.put place entry).step start name = files.step start name := by
    rw [step, step, entryAt_put_other apart]
  rw [same, goes]

theorem follow_put (free : files.entryAt place ≠ some .directory) {absolute : Bool}
    {steps : List String} {found : Place} (leads : files.follow absolute steps = .ok found) :
    (files.put place entry).follow absolute steps = .ok found := by
  rw [follow] at leads ⊢
  rw [here_put]
  -- The names are followed from anywhere, since each of them leads to where the next one begins.
  generalize (if absolute = true then [] else files.here) = start at leads ⊢
  induction steps generalizing start with
  | nil => exact leads
  | cons name rest inductionHypothesis =>
    rw [List.foldlM_cons] at leads ⊢
    cases goes : files.step start name with
    | error reason =>
      rw [goes] at leads
      contradiction
    | ok next =>
      rw [goes] at leads
      rw [step_put free goes]
      exact inductionHypothesis next leads

/-! ### Files that are written -/

/-- Whether a path leads to a place where a file can be written. -/
def LeadsTo (files : Files) (name : String) (place : Place) : Prop :=
  ∃ path, Path.ofText name = .ok path ∧ path.closed = false ∧
    files.follow path.absolute path.steps = .ok place ∧ files.entryAt place ≠ some .directory

/-- A file is written where a path leads, if no directory stands there. -/
theorem write_eq_ok_iff (files : Files) (name text : String) (after : Files) :
    files.write name text = .ok after ↔
      ∃ place, files.LeadsTo name place ∧ after = files.put place (.file text) := by
  constructor
  · intro done
    cases parsed : Path.ofText name with
    | error reason =>
      rw [write, parsed] at done
      contradiction
    | ok path =>
      cases isClosed : path.closed with
      | true =>
        rw [write, parsed] at done
        simp only [bind, Except.bind, if_pos isClosed] at done
        split at done <;> contradiction
      | false =>
        rw [write, parsed] at done
        simp only [bind, Except.bind, isClosed, if_neg Bool.false_ne_true] at done
        cases found : files.follow path.absolute path.steps with
        | error reason =>
          rw [found] at done
          contradiction
        | ok place =>
          rw [found] at done
          simp only at done
          split at done
          · contradiction
          · rename_i free
            exact ⟨place, ⟨path, parsed, isClosed, found, free⟩, (Except.ok.inj done).symm⟩
  · rintro ⟨place, ⟨path, parsed, isOpen, found, free⟩, rfl⟩
    simp only [write, parsed, isOpen, found, bind, Except.bind]
    split
    · contradiction
    · rfl

theorem find_put {name text : String} (leads : files.LeadsTo name place) :
    (files.put place (.file text)).find name = .ok (.file text) := by
  obtain ⟨path, parsed, isOpen, found, free⟩ := leads
  have inside : place ≠ [] := by
    rintro rfl
    exact free rfl
  have again : (files.put place (.file text)).follow path.absolute path.steps = .ok place :=
    follow_put free found
  rw [find, parsed]
  simp only [bind, Except.bind, again, entryAt_put_self inside, isOpen]
  rfl

theorem contains_put {name text : String} (leads : files.LeadsTo name place) :
    (files.put place (.file text)).contains name = true := by
  rw [contains, find_put leads]
  rfl

theorem read_put {name text : String} (leads : files.LeadsTo name place) :
    (files.put place (.file text)).read name = .ok text := by
  rw [read, find_put leads]
  rfl

end Files

/-! ### Settings files, step by step -/

/-- A step that can change files and can fail. What was changed before it fails stays changed. -/
abbrev Filing := ExceptT SettingsError (StateM Files)

theorem run_look {α : Type} (next : Files → Filing α) (files : Files) :
    (get >>= next).run.run files = (next files).run.run files := rfl

/-- Writes a text to a file, or fails and has changed nothing. -/
def overwrite (name text : String) : Filing Unit := do
  match (← get).write name text with
  | .ok after => set after
  | .error reason => throw (.file reason)

namespace Settings

/-- Writes a settings file step by step. -/
def store (settings : Settings) (name : String) (force : Bool) : Filing Unit := do
  if (← get).contains name ∧ force = false then throw (.present name)
  match settings.text? with
  | none => throw .unwritable
  | some text => overwrite name text

/-- Writing step by step comes to the same as writing at once. -/
theorem run_store (settings : Settings) (name : String) (force : Bool) (files : Files) :
    (settings.store name force).run.run files =
      ((settings.write files name force).map fun _ => (),
        (settings.write files name force).toOption.getD files) := by
  rw [store, run_look]
  by_cases taken : files.contains name = true ∧ force = false
  · rw [write, if_pos taken, if_pos taken]
    rfl
  · rw [write, if_neg taken, if_neg taken]
    cases settings.text? with
    | none => rfl
    | some text =>
      simp only [overwrite, run_look]
      cases files.write name text <;> rfl

/-! ### Writing that succeeds, and writing that does not -/

/-- The text of settings is there if the indent fits a machine word with a sign. -/
theorem isSome_text?_iff (settings : Settings) :
    settings.text?.isSome = true ↔ ∀ indent ∈ settings.indent, indent < Nat.pow 2 63 := by
  have fits : settings.indent.all (· ≤ maxNumber) = true ↔
      ∀ indent ∈ settings.indent, indent < Nat.pow 2 63 := by
    have next : maxNumber + 1 = Nat.pow 2 63 := by decide
    cases settings.indent with
    | none => exact iff_of_true rfl nofun
    | some indent =>
      simp only [Option.all_some, decide_eq_true_eq, Option.mem_some_iff, forall_eq', ← next]
      exact Nat.le_iff_lt_add_one
  rw [← fits, text?]
  split
  · rename_i small
    exact iff_of_true rfl small
  · rename_i great
    exact iff_of_false Bool.false_ne_true great

/-- An indent that is too great is refused, also if a file that is there may be replaced. -/
theorem write_of_great (settings : Settings) (files : Files) (name : String) (force : Bool)
    {indent : Nat} (given : indent ∈ settings.indent) (great : Nat.pow 2 63 ≤ indent) :
    settings.write files name force =
      .error (if files.contains name = true ∧ force = false then .present name
        else .unwritable) := by
  have unwritable : settings.text? = none := by
    rw [← Option.not_isSome_iff_eq_none, settings.isSome_text?_iff]
    exact fun fits => Nat.not_lt.mpr great (fits indent given)
  rw [write, unwritable]
  split <;> rfl

/-- Settings are written if nothing is in the way, they have a text, and the file can be written. -/
theorem write_eq_ok_iff (settings : Settings) (files : Files) (name : String) (force : Bool)
    (after : Files) :
    settings.write files name force = .ok after ↔
      (files.contains name = true → force = true) ∧
        ∃ text, settings.text? = some text ∧ files.write name text = .ok after := by
  have free : (files.contains name = true → force = true) ↔
      ¬ (files.contains name = true ∧ force = false) := by
    rw [not_and, Bool.not_eq_false]
  rw [free, write]
  by_cases taken : files.contains name = true ∧ force = false
  · rw [if_pos taken]
    exact ⟨fun same => by contradiction, fun given => absurd taken given.1⟩
  · rw [if_neg taken]
    cases settings.text? with
    | none => simp
    | some text =>
      simp only [Option.some_inj, exists_eq_left', and_iff_right taken]
      cases files.write name text <;> simp

theorem exists_write_iff (settings : Settings) (files : Files) (name : String) (force : Bool) :
    (∃ after, settings.write files name force = .ok after) ↔
      (files.contains name = true → force = true) ∧
        (∀ indent ∈ settings.indent, indent < Nat.pow 2 63) ∧
        ∃ place, files.LeadsTo name place := by
  simp only [write_eq_ok_iff, Files.write_eq_ok_iff, ← isSome_text?_iff, Option.isSome_iff_exists]
  constructor
  · rintro ⟨_, free, text, given, place, leads, rfl⟩
    exact ⟨free, ⟨text, given⟩, place, leads⟩
  · rintro ⟨free, ⟨text, given⟩, place, leads⟩
    exact ⟨_, free, text, given, place, leads, rfl⟩

/-- Whether settings were written to the file at a place, and nothing else was changed. -/
structure IsStored (settings : Settings) (before after : Files) (name : String) (place : Place) :
    Prop where
  leads : before.LeadsTo name place
  others : ∀ other, other ≠ place → after.entryAt other = before.entryAt other
  here : after.here = before.here
  loads : load after (some name) = .ok (some settings)

theorem isStored_of_write {settings : Settings} {files after : Files} {name text : String}
    (given : settings.text? = some text) (done : files.write name text = .ok after) :
    ∃ place, settings.IsStored files after name place := by
  obtain ⟨place, leads, rfl⟩ := (Files.write_eq_ok_iff files name text after).mp done
  have loads : load (files.put place (.file text)) (some name) = .ok (some settings) := by
    rw [load, if_pos (Files.contains_put leads), read, Files.read_put leads]
    simp only [ofText?_text? settings text given]
    rfl
  exact ⟨place, leads, fun _ apart => Files.entryAt_put_other apart, Files.here_put .., loads⟩

/-- Settings are written as a whole or not at all. Either they are what is loaded from their file
then and nothing else has changed, or nothing has changed. A file in the way is refused unless it
may be replaced, an indent beyond a machine word with a sign always, and nothing else is refused if
the path leads to a place for a file. -/
theorem settings_stored_or_nothing_changed (settings : Settings) (files : Files) (name : String)
    (force : Bool) :
    let outcome := (settings.store name force).run.run files
    settings.write files name force = outcome.1.map (fun _ => outcome.2) ∧
    (outcome.1 = .ok () ∧ (∃ place, settings.IsStored files outcome.2 name place) ∨
      (∃ reason, outcome.1 = .error reason) ∧ outcome.2 = files) ∧
    (files.contains name = true → force = false → outcome.1 = .error (.present name)) ∧
    (∀ indent ∈ settings.indent, Nat.pow 2 63 ≤ indent →
      outcome.1 = .error (if files.contains name = true ∧ force = false then .present name
        else .unwritable)) ∧
    (outcome.1 = .ok () ↔ (files.contains name = true → force = true) ∧
      (∀ indent ∈ settings.indent, indent < Nat.pow 2 63) ∧ ∃ place, files.LeadsTo name place) := by
  intro outcome
  have came : outcome = _ := settings.run_store name force files
  have answer : outcome.1 = (settings.write files name force).map fun _ => () :=
    congrArg Prod.fst came
  have left : outcome.2 = (settings.write files name force).toOption.getD files :=
    congrArg Prod.snd came
  refine ⟨?_, ?_, fun present unforced => ?_, fun indent given great => ?_, ?_⟩
  · rw [answer, left]
    cases settings.write files name force <;> rfl
  · cases written : settings.write files name force with
    | error reason =>
      rw [written] at answer left
      exact .inr ⟨⟨reason, answer⟩, left⟩
    | ok after =>
      rw [written] at answer left
      obtain ⟨_, text, given, done⟩ := (settings.write_eq_ok_iff files name force after).mp written
      exact .inl ⟨answer, left ▸ isStored_of_write given done⟩
  · rw [answer, write, if_pos ⟨present, unforced⟩]
    rfl
  · rw [answer, settings.write_of_great files name force given great]
    rfl
  · rw [← settings.exists_write_iff, answer]
    cases settings.write files name force <;> simp [Except.map]

/-- A file stands in the way of new settings. They are refused, also if the file may be replaced but
the indent is too great, and replace it otherwise. -/
theorem settings_stored_or_nothing_changed_present :
    let files : Files :=
      { entries := [(["bach.toml"], .file "indent = 2\n"), (["lib"], .directory)] }
    let refused := (starter.store "bach.toml" false).run.run files
    let great : Settings := { indent := some (Nat.pow 2 63) }
    files.contains "bach.toml" = true ∧
    refused = (.error (.present "bach.toml"), files) ∧
    ((great.store "bach.toml" true).run.run files).1 = .error .unwritable ∧
    ((starter.store "bach.toml" true).run.run files).1 = .ok () := by
  intro files refused great
  have present : files.contains "bach.toml" = true := by decide
  have leads : files.LeadsTo "bach.toml" ["bach.toml"] :=
    ⟨⟨false, ["bach.toml"], false⟩, rfl, rfl, rfl, by decide⟩
  obtain ⟨-, changed, refusal, -, -⟩ :=
    settings_stored_or_nothing_changed starter files "bach.toml" false
  obtain ⟨-, -, -, beyond, -⟩ := settings_stored_or_nothing_changed great files "bach.toml" true
  obtain ⟨-, -, -, -, success⟩ := settings_stored_or_nothing_changed starter files "bach.toml" true
  have answer := refusal present rfl
  refine ⟨present, ?_, beyond _ rfl (Nat.le_refl _), ?_⟩
  · rcases changed with ⟨done, _⟩ | ⟨_, same⟩
    · rw [answer] at done
      contradiction
    · exact Prod.ext answer same
  · exact success.mpr ⟨fun _ => rfl, by decide, _, leads⟩

end Settings

end NameBinding
