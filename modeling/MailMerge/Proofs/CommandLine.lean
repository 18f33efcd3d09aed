import MailMerge.CommandLine.Parse

/-!
# When arguments give no options

Arguments are read word by word, and only when all of them can be read is it looked at which are
missing. So an argument is reported as missing exactly if all words can be read and a required one
was not among them (`isMissing_iff`). Every other reason to stop lies in a word.
-/

namespace MailMerge.CommandLine

/-- Whether arguments give no options for one that is missing. -/
def Stop.isMissing : Stop → Bool
  | .missingRequired .. => true
  | _ => false

/-- Whether reading does not stop for a missing argument. -/
def ReadsOn {α : Type} (x : Except Stop α) : Prop :=
  ∀ stop, x = .error stop → stop.isMissing = false

/-- What is recorded when all words have been read. -/
def readWords (args : List String) : Except Stop State := do
  let s ← State.initial.words (args.map String.toList)
  State.check s.settle

/-! ### Words

Each function of the reader is a chain of steps that may stop. That none of them stops for a
missing argument is put together along the chain, from the few faults that a step can have. -/

namespace ReadsOn

variable {α β : Type}

theorem ok (a : α) : ReadsOn (.ok a) := nofun

theorem error {stop : Stop} (h : stop.isMissing = false) : ReadsOn (.error stop : Except Stop α) := by
  rintro _ ⟨⟩
  exact h

theorem bind {x : Except Stop α} {f : α → Except Stop β} (hx : ReadsOn x)
    (hf : ∀ a, ReadsOn (f a)) : ReadsOn (x >>= f) := by
  cases x with
  | error stop => exact error (hx stop rfl)
  | ok a => exact hf a

theorem check {r : State × Option Stop} (h : ∀ stop, r.2 = some stop → stop.isMissing = false) :
    ReadsOn (State.check r) := by
  obtain ⟨s, fault | stop⟩ := r
  · exact ok s
  · exact error (h stop rfl)

end ReadsOn

namespace State

variable (s : State)

theorem isMissing_record (a : Arg) (value : String) :
    ∀ stop, (s.record a value).2 = some stop → stop.isMissing = false := by
  intro stop h
  unfold record at h
  split at h
  · cases h
    rfl
  · dsimp only at h
    split at h <;> cases h
    rfl

theorem isMissing_settle : ∀ stop, s.settle.2 = some stop → stop.isMissing = false := by
  intro stop h
  unfold settle at h
  split at h
  · cases h
  · cases h
    rfl
  · exact isMissing_record _ _ _ stop h

theorem readsOn_attached (a : Arg) (value : List Char) : ReadsOn (s.attached a value) :=
  .bind (.check s.isMissing_settle) fun s => .check (s.isMissing_record a _)

theorem readsOn_await (a : Arg) : ReadsOn (s.await a) :=
  .bind (.check s.isMissing_settle) fun _ => .ok _

theorem readsOn_flag (a : Arg) (full : Bool) : ReadsOn (s.flag a full) := by
  refine .bind (.check s.isMissing_settle) fun s => ?_
  split
  · exact .error rfl
  · exact .error rfl
  · exact .check (s.isMissing_record a _)

theorem readsOn_long (name : List Char) (value : Option (List Char)) :
    ReadsOn (s.long name value) := by
  unfold long
  split
  · exact .error rfl
  · next a _ =>
      split
      · split
        · exact s.readsOn_attached a _
        · exact .error rfl
      · split
        · exact s.readsOn_await a
        · exact s.readsOn_flag a true

theorem readsOn_short (letters : List Char) : ReadsOn (s.short letters) := by
  induction letters generalizing s with
  | nil => exact .ok s
  | cons c rest ih =>
      unfold short
      split
      · exact .error rfl
      · next a _ =>
          split
          · split
            · exact s.readsOn_await a
            · exact s.readsOn_attached a _
            · exact s.readsOn_attached a _
          · exact .bind (s.readsOn_flag a false) ih

theorem readsOn_plain (text : List Char) : ReadsOn (s.plain text) := by
  unfold plain
  split
  · exact .ok _
  · exact .error rfl

theorem readsOn_words (words : List (List Char)) : ReadsOn (s.words words) := by
  induction words generalizing s with
  | nil => exact .ok s
  | cons w rest ih =>
      -- one case for each kind of word
      unfold State.words
      split
      · split
        · exact .ok s
        · exact .error rfl
      · exact .bind (s.readsOn_long _ _) ih
      · exact .bind (s.readsOn_short _) ih
      · exact .bind (s.readsOn_plain _) ih

theorem readsOn_readWords (args : List String) : ReadsOn (readWords args) :=
  .bind (readsOn_words _ _) fun s => .check s.isMissing_settle

end State

/-! ### Missing arguments

Only when all words have been read are the required arguments looked for. This is the one
place where a missing one is reported, and it is looked at behind everything else. -/

theorem Arg.mem_all (a : Arg) : a ∈ all := by cases a <;> decide

/-- What is recorded gives no options exactly if a required argument is not there. -/
theorem State.options_eq_error {s : State} {stop : Stop} (h : s.options = .error stop) :
    stop.isMissing = true ∧ ∃ a, a.isRequired = true ∧ s.has a = false := by
  unfold options at h
  dsimp only at h
  split at h
  · next hmissing =>
      cases h
      obtain ⟨a, ha⟩ := List.exists_mem_of_ne_nil _ hmissing
      exact ⟨rfl, a, by simpa using (List.mem_filter.mp ha).2⟩
  · cases h

theorem State.exists_options_eq_error {s : State} {a : Arg} (hrequired : a.isRequired = true)
    (ha : s.has a = false) : ∃ stop, s.options = .error stop := by
  have hmem : a ∈ Arg.all.filter fun a => a.isRequired && !s.has a :=
    List.mem_filter.mpr ⟨a.mem_all, by simp [hrequired, ha]⟩
  unfold options
  dsimp only
  rw [if_pos (List.ne_nil_of_mem hmem)]
  exact ⟨_, rfl⟩

theorem parse_eq (args : List String) : parse args = readWords args >>= State.options := by
  unfold parse readWords
  cases State.initial.words (args.map String.toList) <;> rfl

/-- An argument is reported as missing exactly if all words can be read and a required one is not
among them. -/
theorem isMissing_iff {args : List String} {stop : Stop} (h : parse args = .error stop) :
    stop.isMissing = true ↔
      ∃ s, readWords args = .ok s ∧ ∃ a, a.isRequired = true ∧ s.has a = false := by
  rw [parse_eq] at h
  cases hread : readWords args with
  -- a fault in a word, which is never a missing argument
  | error stop' =>
      rw [hread] at h
      cases h
      rw [State.readsOn_readWords args stop hread]
      constructor
      · nofun
      · rintro ⟨s, ⟨⟩, -⟩
  | ok s =>
      rw [hread] at h
      obtain ⟨hmissing, hleft⟩ := State.options_eq_error h
      exact ⟨fun _ => ⟨s, rfl, hleft⟩, fun _ => hmissing⟩

/-- All words can be read and no required argument is missing, or there are no options. -/
theorem parse_eq_ok_iff {args : List String} :
    (∃ o, parse args = .ok o) ↔
      ∃ s, readWords args = .ok s ∧ ∀ a, a.isRequired = true → s.has a = true := by
  rw [parse_eq]
  cases readWords args with
  | error stop =>
      constructor
      · rintro ⟨o, ⟨⟩⟩
      · rintro ⟨s, ⟨⟩, -⟩
  | ok s =>
      constructor
      · rintro ⟨o, ho⟩
        refine ⟨s, rfl, fun a hrequired => ?_⟩
        -- without the argument there would be no options
        cases ha : s.has a with
        | true => rfl
        | false =>
            obtain ⟨stop, hstop⟩ := State.exists_options_eq_error hrequired ha
            cases ho.symm.trans hstop
      · rintro ⟨_, ⟨⟩, hall⟩
        cases hoptions : s.options with
        | ok o => exact ⟨o, hoptions⟩
        | error stop =>
            obtain ⟨-, a, hrequired, ha⟩ := State.options_eq_error hoptions
            rw [hall a hrequired] at ha
            cases ha

end MailMerge.CommandLine
