import MailMerge.Config
import MailMerge.Proofs.Filler

/-!
# Wrong options

Options make a configuration unless one of them is wrong (`Options.Wrong`). All that is looked at
then is the tree, and the error is a fault of the options, however many of them are wrong
(`load_eq_error`, `load_eq_ok`).
-/

namespace MailMerge

/-! ### Steps that may fail

Options are looked at with a log, but what they come to can be told without it. A step that
fails ends the whole with its fault; one that succeeds hands its value on. -/

namespace Logged

variable {α β : Type} {x : Logged α} {f : α → Logged β}

theorem bind_eq_ok {b : β} (h : (x >>= f).result = .ok b) :
    ∃ a, x.result = .ok a ∧ (f a).result = .ok b := by
  rw [result_bind] at h
  cases hx : x.result with
  | error e => rw [hx] at h; cases h
  | ok a => rw [hx] at h; exact ⟨a, rfl, h⟩

theorem bind_eq_error {e : Error} (h : (x >>= f).result = .error e) :
    x.result = .error e ∨ ∃ a, x.result = .ok a ∧ (f a).result = .error e := by
  rw [result_bind] at h
  cases hx : x.result with
  | error e' => rw [hx] at h; exact Or.inl (congrArg Except.error (Except.error.inj h))
  | ok a => rw [hx] at h; exact Or.inr ⟨a, rfl, h⟩

theorem config_eq_ok {r : Except ConfigFault α} {a : α} (h : (config r).result = .ok a) :
    r = .ok a := by
  cases r with
  | error fault => cases h
  | ok a' => cases h; rfl

theorem config_eq_error {r : Except ConfigFault α} {e : Error}
    (h : (config r).result = .error e) : ∃ fault, r = .error fault ∧ e = .config fault := by
  cases r with
  | error fault => cases h; exact ⟨fault, rfl, rfl⟩
  | ok a => cases h

end Logged

/-- What does not succeed fails. -/
theorem exists_error_iff {α ε : Type} {x : Except ε α} :
    (∃ e, x = .error e) ↔ ¬ ∃ a, x = .ok a := by
  cases x with
  | error e => exact ⟨fun _ => nofun, fun _ => ⟨e, rfl⟩⟩
  | ok a => exact ⟨nofun, fun h => absurd ⟨a, rfl⟩ h⟩

/-- What succeeded did not fail. -/
theorem not_of_eq_ok {α ε : Type} {x : Except ε α} {P : Prop} {a : α} (h : x = .ok a)
    (hfails : (∃ e, x = .error e) ↔ P) : ¬ P := by
  rw [← hfails, exists_error_iff]
  exact not_not_intro ⟨a, h⟩

/-! ### What can be wrong

An option is wrong by itself or together with others: a placeholder, for instance, is wrong
for a variable of the list. Values of other options stand as hypotheses there, and say
nothing of how they were come by. -/

/-- The options that may be given as a file. -/
def Options.sources (o : Options) : List String :=
  [o.variableList, o.fileName, o.modifier, o.placeholder]

/-- Whether an option is wrong. -/
inductive Options.Wrong (t : File.Tree) (o : Options) : Prop
  | noTemplate (h : t.isFile o.template = false)
  | noData (h : t.isFile o.data = false)
  /-- An option is given as a file that holds no text. -/
  | unreadable {source : String} (hsource : source ∈ o.sources) (hne : source ≠ "")
      (hfile : t.isFile source = true) {fault : File.Fault}
      (h : t.readText source = .error fault)
  | emptyName {list : String} (hlist : (OptionSource.lineValue t o.variableList).result = .ok list)
      {name : List Char} (hname : name ∈ list.toList.splitOn ',') (h : Text.trimChars name = [])
  | blankFileName {pattern : String}
      (hpattern : (OptionSource.lineValue t o.fileName).result = .ok pattern)
      (h : Text.isBlank pattern = true)
  | modifier {text : String} (htext : (OptionSource.value t o.modifier).result = .ok text)
      {fault : ConfigFault} (h : Modifier.parse text = .error fault)
  | noVariable {source : String}
      (hsource : (OptionSource.lineValue t o.placeholder).result = .ok source)
      (h : Text.contains source variableToken = false)
  /-- The replace pattern with the name of a variable put in is no pattern. -/
  | badPattern {list source v : String} {names : List String} {p : Placeholder}
      (hlist : (OptionSource.lineValue t o.variableList).result = .ok list)
      (hnames : Variables.parse list = .ok names)
      (hsource : (OptionSource.lineValue t o.placeholder).result = .ok source)
      (hp : Placeholder.ofString source = .ok p) (hv : v ∈ names) {fault : ConfigFault}
      (h : p.compile v = .error fault)

variable {t : File.Tree} {o : Options}

/-! ### When each step fails

One lemma for each kind of step, in the terms of `Options.Wrong`. -/

theorem Config.requireFile_eq_error_iff {path : String} {fault fault' : ConfigFault} :
    requireFile t path fault = .error fault' ↔ t.isFile path = false ∧ fault' = fault := by
  unfold requireFile
  split
  · next hfile => simp [hfile]
  · next hfile => simp [hfile, eq_comm]

theorem Config.requireFile_fails_iff {path : String} {fault : ConfigFault} :
    (∃ e, requireFile t path fault = .error e) ↔ t.isFile path = false := by
  simp [requireFile_eq_error_iff]

theorem Config.requireName_fails_iff {pattern : String} :
    (∃ e, requireName pattern = .error e) ↔ Text.isBlank pattern = true := by
  unfold requireName
  split
  · next hblank => simp [hblank]
  · next hblank => simp [hblank]

theorem Variables.parse_fails_iff {list : String} :
    (∃ e, parse list = .error e) ↔ ∃ name ∈ list.toList.splitOn ',', Text.trimChars name = [] := by
  unfold parse
  dsimp only
  split
  · next hempty => simpa using hempty
  · next hempty => simpa using hempty

theorem Placeholder.ofString_fails_iff {source : String} :
    (∃ e, ofString source = .error e) ↔ Text.contains source variableToken = false := by
  unfold ofString
  split
  · next htoken => simp [htoken]
  · next htoken => simp [htoken]

theorem Filler.ofNames_fails_iff {p : Placeholder} {names : List String} :
    (∃ e, ofNames p names = .error e) ↔ ∃ v ∈ names, ∃ e, p.compile v = .error e := by
  simp only [exists_error_iff, exists_ofNames_iff, Classical.not_forall, exists_prop]

namespace OptionSource

/-- An option has no value exactly if it is a file that cannot be read. -/
theorem value_fails_iff {source : String} : (∃ e, (value t source).result = .error e) ↔
    source ≠ "" ∧ t.isFile source = true ∧ ∃ fault, t.readText source = .error fault := by
  unfold value ofText
  split
  · next hfile =>
      simp only [load, Logged.result_bind, Logged.result_log, Logged.result_config]
      cases t.readText source with
      | error fault => exact ⟨fun _ => ⟨hfile.1, hfile.2, fault, rfl⟩, fun _ => ⟨_, rfl⟩⟩
      | ok text => exact ⟨nofun, nofun⟩
  · next hfile => exact ⟨nofun, fun h => absurd ⟨h.1, h.2.1⟩ hfile⟩

/-- The fault is one of the options. -/
theorem value_eq_error {source : String} {e : Error} (h : (value t source).result = .error e) :
    ∃ fault, e = .config fault := by
  unfold value ofText at h
  split at h
  · rcases Logged.bind_eq_error h with h | ⟨_, -, h⟩
    · cases h
    · obtain ⟨fault, -, he⟩ := Logged.config_eq_error h
      exact ⟨fault, he⟩
  · cases h

theorem lineValue_eq_error {source : String} {e : Error}
    (h : (lineValue t source).result = .error e) : (value t source).result = .error e := by
  rcases Logged.bind_eq_error h with h | ⟨text, -, h⟩
  · exact h
  · cases h

theorem value_of_lineValue_eq_ok {source line : String}
    (h : (lineValue t source).result = .ok line) : ∃ text, (value t source).result = .ok text := by
  obtain ⟨text, h, -⟩ := Logged.bind_eq_ok h
  exact ⟨text, h⟩

end OptionSource

/-! ### All steps

Two passes through the steps: a failure makes some option wrong, and if every step succeeded
none is. The second takes each way to be wrong to the step that would have failed. -/

namespace Config

theorem wrong_of_value_eq_error {source : String} {e : Error} (hsource : source ∈ o.sources)
    (h : (OptionSource.value t source).result = .error e) :
    (∃ fault, e = .config fault) ∧ o.Wrong t := by
  obtain ⟨hne, hfile, fault, hread⟩ := OptionSource.value_fails_iff.mp ⟨e, h⟩
  exact ⟨OptionSource.value_eq_error h, .unreadable hsource hne hfile hread⟩

theorem wrong_of_config_eq_error {α : Type} {r : Except ConfigFault α} {e : Error}
    (h : (Logged.config r).result = .error e) (hwrong : (∃ fault, r = .error fault) → o.Wrong t) :
    (∃ fault, e = .config fault) ∧ o.Wrong t := by
  obtain ⟨fault, hr, he⟩ := Logged.config_eq_error h
  exact ⟨⟨fault, he⟩, hwrong ⟨fault, hr⟩⟩

/-- Options that make no configuration have a fault, and one of them is wrong. -/
theorem load_eq_error {e : Error} (h : (load t o).result = .error e) :
    (∃ fault, e = .config fault) ∧ o.Wrong t := by
  -- step by step: either this one failed, or it gave a value and one behind it failed
  unfold load at h
  rcases Logged.bind_eq_error h with h | ⟨_, -, h⟩
  · exact wrong_of_config_eq_error h fun hr => .noTemplate (requireFile_fails_iff.mp hr)
  rcases Logged.bind_eq_error h with h | ⟨_, -, h⟩
  · exact wrong_of_config_eq_error h fun hr => .noData (requireFile_fails_iff.mp hr)
  rcases Logged.bind_eq_error h with h | ⟨list, hlist, h⟩
  · exact wrong_of_value_eq_error (by simp [Options.sources]) (OptionSource.lineValue_eq_error h)
  rcases Logged.bind_eq_error h with h | ⟨names, hnames, h⟩
  · refine wrong_of_config_eq_error h fun hr => ?_
    obtain ⟨name, hname, hempty⟩ := Variables.parse_fails_iff.mp hr
    exact .emptyName hlist hname hempty
  rcases Logged.bind_eq_error h with h | ⟨pattern, hpattern, h⟩
  · exact wrong_of_value_eq_error (by simp [Options.sources]) (OptionSource.lineValue_eq_error h)
  rcases Logged.bind_eq_error h with h | ⟨_, -, h⟩
  · exact wrong_of_config_eq_error h fun hr =>
      .blankFileName hpattern (requireName_fails_iff.mp hr)
  rcases Logged.bind_eq_error h with h | ⟨text, htext, h⟩
  · exact wrong_of_value_eq_error (by simp [Options.sources]) h
  rcases Logged.bind_eq_error h with h | ⟨modifier, -, h⟩
  · refine wrong_of_config_eq_error h fun ⟨fault, hr⟩ => ?_
    exact .modifier htext hr
  rcases Logged.bind_eq_error h with h | ⟨source, hsource, h⟩
  · exact wrong_of_value_eq_error (by simp [Options.sources]) (OptionSource.lineValue_eq_error h)
  rcases Logged.bind_eq_error h with h | ⟨p, hp, h⟩
  · exact wrong_of_config_eq_error h fun hr =>
      .noVariable hsource (Placeholder.ofString_fails_iff.mp hr)
  rcases Logged.bind_eq_error h with h | ⟨filler, -, h⟩
  · refine wrong_of_config_eq_error h fun hr => ?_
    obtain ⟨v, hv, fault, hcompile⟩ := Filler.ofNames_fails_iff.mp hr
    exact .badPattern hlist (Logged.config_eq_ok hnames) hsource (Logged.config_eq_ok hp) hv
      hcompile
  · cases h

/-- Options that make a configuration are all right, and the configuration keeps the paths. -/
theorem load_eq_ok {c : Config} (h : (load t o).result = .ok c) :
    ¬ o.Wrong t ∧ c.template = o.template ∧ c.data = o.data ∧ c.outputDir = o.outputDir := by
  unfold load at h
  obtain ⟨_, htemplate, h⟩ := Logged.bind_eq_ok h
  obtain ⟨_, hdata, h⟩ := Logged.bind_eq_ok h
  obtain ⟨list, hlist, h⟩ := Logged.bind_eq_ok h
  obtain ⟨names, hnames, h⟩ := Logged.bind_eq_ok h
  obtain ⟨pattern, hpattern, h⟩ := Logged.bind_eq_ok h
  obtain ⟨_, hname, h⟩ := Logged.bind_eq_ok h
  obtain ⟨text, htext, h⟩ := Logged.bind_eq_ok h
  obtain ⟨modifier, hmodifier, h⟩ := Logged.bind_eq_ok h
  obtain ⟨source, hsource, h⟩ := Logged.bind_eq_ok h
  obtain ⟨p, hp, h⟩ := Logged.bind_eq_ok h
  obtain ⟨filler, hfiller, h⟩ := Logged.bind_eq_ok h
  obtain rfl := Except.ok.inj h
  refine ⟨fun hwrong => ?_, rfl, rfl, rfl⟩
  cases hwrong with
  | noTemplate h => exact not_of_eq_ok (Logged.config_eq_ok htemplate) requireFile_fails_iff h
  | noData h => exact not_of_eq_ok (Logged.config_eq_ok hdata) requireFile_fails_iff h
  | unreadable hsource' hne hfile h =>
      -- all four sources have given a value, so the one in question has too
      have hvalue : ∀ s ∈ o.sources, ∃ text, (OptionSource.value t s).result = .ok text := by
        simp only [Options.sources, List.forall_mem_cons]
        exact ⟨OptionSource.value_of_lineValue_eq_ok hlist,
          OptionSource.value_of_lineValue_eq_ok hpattern, ⟨text, htext⟩,
          OptionSource.value_of_lineValue_eq_ok hsource, nofun⟩
      obtain ⟨text', htext'⟩ := hvalue _ hsource'
      exact not_of_eq_ok htext' OptionSource.value_fails_iff ⟨hne, hfile, _, h⟩
  | emptyName hlist' hname' h =>
      -- the step saw the same list
      obtain rfl := Except.ok.inj (hlist.symm.trans hlist')
      exact not_of_eq_ok (Logged.config_eq_ok hnames) Variables.parse_fails_iff ⟨_, hname', h⟩
  | blankFileName hpattern' h =>
      obtain rfl := Except.ok.inj (hpattern.symm.trans hpattern')
      exact not_of_eq_ok (Logged.config_eq_ok hname) requireName_fails_iff h
  | modifier htext' h =>
      obtain rfl := Except.ok.inj (htext.symm.trans htext')
      rw [Logged.config_eq_ok hmodifier] at h
      cases h
  | noVariable hsource' h =>
      obtain rfl := Except.ok.inj (hsource.symm.trans hsource')
      exact not_of_eq_ok (Logged.config_eq_ok hp) Placeholder.ofString_fails_iff h
  | badPattern hlist' hnames' hsource' hp' hv h =>
      obtain rfl := Except.ok.inj (hlist.symm.trans hlist')
      obtain rfl := Except.ok.inj (hsource.symm.trans hsource')
      obtain rfl := Except.ok.inj ((Logged.config_eq_ok hnames).symm.trans hnames')
      obtain rfl := Except.ok.inj ((Logged.config_eq_ok hp).symm.trans hp')
      exact not_of_eq_ok (Logged.config_eq_ok hfiller) Filler.ofNames_fails_iff ⟨_, hv, _, h⟩

/-- **Options make a configuration unless one of them is wrong.** -/
theorem exists_load_iff : (∃ c, (load t o).result = .ok c) ↔ ¬ o.Wrong t := by
  constructor
  · rintro ⟨c, hc⟩
    exact (load_eq_ok hc).1
  · intro hright
    cases h : (load t o).result with
    | ok c => exact ⟨c, rfl⟩
    | error e => exact absurd (load_eq_error h).2 hright

end Config
end MailMerge
