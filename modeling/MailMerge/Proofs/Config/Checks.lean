import MailMerge.Proofs.Config.Parsed
import MailMerge.Proofs.Config.Sources

/-!
# The order of the checks

Options are put to a fixed sequence of checks (`Check`), some of them one for each rule of the
modifier or each variable. What each check asks for is said of the options and the tree alone, and
not of what the other checks find (`Fails`). Options make a configuration exactly if no check fails,
and otherwise the error is that of the first check that does (`load_checks`). A configuration keeps
what has been checked (`Sound`).

That a step of `load` makes certain checks in order is `Makes`, which is put together step by step
(`Makes.bind`).
-/

namespace MailMerge

/-! ### What is checked

The checks are numbered by stages, and those of one stage by the rules or variables they are
for. So the order of any two of them is an order of numbers, and a stage with its index
gives the check back. -/

/-- The options that may be given as a file. -/
inductive Options.Source where
  | variableList
  | fileName
  | modifier
  | placeholder
  deriving DecidableEq, Repr

/-- An option as it is written. -/
def Options.text (o : Options) : Source → String
  | .variableList => o.variableList
  | .fileName => o.fileName
  | .modifier => o.modifier
  | .placeholder => o.placeholder

namespace Config

/-- The checks of options. -/
inductive Check where
  | template
  | data
  | readable (s : Options.Source)
  /-- No variable has an empty name. -/
  | names
  /-- The pattern of file names is not blank. -/
  | fileName
  /-- The field modifier is a set of rules. -/
  | rules
  /-- The pattern of a rule compiles. -/
  | rule (i : Nat)
  /-- The replace pattern has a place for the name of a variable. -/
  | token
  /-- The placeholder of a variable compiles. -/
  | placeholder (i : Nat)
  deriving DecidableEq, Repr

namespace Check

/-- The stages of the checks. -/
def stage : Check → Nat
  | template => 0
  | data => 1
  | readable .variableList => 2
  | names => 3
  | readable .fileName => 4
  | fileName => 5
  | readable .modifier => 6
  | rules => 7
  | rule _ => 8
  | readable .placeholder => 9
  | token => 10
  | placeholder _ => 11

/-- The place of a check in its stage. -/
def index : Check → Nat
  | rule i | placeholder i => i
  | _ => 0

/-- Whether a check is made before another one. -/
def Before (k k' : Check) : Prop := k.stage < k'.stage ∨ k.stage = k'.stage ∧ k.index < k'.index

/-- The check at a place. -/
def ofStage (stage index : Nat) : Check :=
  match stage with
  | 0 => template
  | 1 => data
  | 2 => readable .variableList
  | 3 => names
  | 4 => readable .fileName
  | 5 => fileName
  | 6 => readable .modifier
  | 7 => rules
  | 8 => rule index
  | 9 => readable .placeholder
  | 10 => token
  | _ => placeholder index

theorem ofStage_stage (k : Check) : ofStage k.stage k.index = k := by
  rcases k with _ | _ | ⟨_ | _ | _ | _⟩ | _ | _ | _ | _ | _ | _ <;> rfl

theorem ofStage_readable (s : Options.Source) (i : Nat) :
    ofStage (readable s).stage i = readable s := by
  cases s <;> rfl

theorem stage_lt (k : Check) : k.stage < 12 := by
  rcases k with _ | _ | ⟨_ | _ | _ | _⟩ | _ | _ | _ | _ | _ | _ <;> simp [stage]

/-- Of two checks one is made before the other. -/
theorem trichotomy (k k' : Check) : k.Before k' ∨ k = k' ∨ k'.Before k := by
  unfold Before
  rcases Nat.lt_trichotomy k.stage k'.stage with h | hstage | h
  · exact Or.inl (Or.inl h)
  · rcases Nat.lt_trichotomy k.index k'.index with h | hindex | h
    · exact Or.inl (Or.inr ⟨hstage, h⟩)
    -- the same stage and the same index
    · right; left
      rw [← ofStage_stage k, hstage, hindex, ofStage_stage]
    · exact Or.inr (Or.inr (Or.inr ⟨hstage.symm, h⟩))
  · exact Or.inr (Or.inr (Or.inl h))

end Check

open OptionSource (Gives GivesLine)

/-- Whether a check fails, and with which fault. -/
inductive Fails (t : File.Tree) (o : Options) : Check → ConfigFault → Prop
  | template (h : t.isFile o.template = false) : Fails t o .template (.noTemplate o.template)
  | data (h : t.isFile o.data = false) : Fails t o .data (.noData o.data)
  | readable {s : Options.Source} {content : ByteArray} (hread : t.read (o.text s) = .ok content)
      (htext : String.fromUTF8? content = none) :
      Fails t o (.readable s) (.unreadable (o.text s) .notText)
  | names {list : String} (hlist : GivesLine t o.variableList list)
      (h : "" ∈ Variables.split list) : Fails t o .names (.emptyName list)
  | fileName {pattern : String} (hpattern : GivesLine t o.fileName pattern)
      (h : ∀ c ∈ pattern.toList, Text.isWhite c = true) : Fails t o .fileName .blankFileName
  | rules {text : String} (htext : Gives t o.modifier text) {e : Json.Error}
      (h : Modifier.Misshapen text e) : Fails t o .rules (.notRules e)
  | rule {text : String} (htext : Gives t o.modifier text) {rules : Record}
      (hrules : Modifier.Writes text rules) {i : Nat} {pattern replacement : String}
      (hi : rules.entries[i]? = some (pattern, replacement)) {e : Regex.Error}
      (h : Regex.compile? pattern = .error e) : Fails t o (.rule i) (.badPattern pattern e)
  | token {source : String} (hsource : GivesLine t o.placeholder source)
      (h : ¬ variableToken.toList <:+: source.toList) : Fails t o .token (.noVariable source)
  | placeholder {list : String} (hlist : GivesLine t o.variableList list) {source : String}
      (hsource : GivesLine t o.placeholder source) {i : Nat} {name : String}
      (hi : (Variables.split list)[i]? = some name) {e : Regex.Error}
      (h : Regex.compile? (Text.replace source variableToken name) = .error e) :
      Fails t o (.placeholder i) (.badPattern (Text.replace source variableToken name) e)

variable {t : File.Tree} {o : Options}

/-! ### Checks made by steps

A step of loading makes the checks of some stages in a row. What that means is the same for
a single check and for all of them, and steps in sequence make the stages of both; so the
statement about loading is put together in the order in which loading goes. -/

/-- A check fails in one way only. -/
theorem Fails.unique {k : Check} {fault fault' : ConfigFault} (h : Fails t o k fault)
    (h' : Fails t o k fault') : fault = fault' := by
  cases h with
  | template | data | readable | fileName => cases h'; rfl
  | names hlist =>
      cases h' with
      | names hlist' => rw [hlist.unique hlist']
  | rules htext h =>
      cases h' with
      -- the text of the rules is told by the option, so the fault of JSON is the same
      | rules htext' h' =>
          obtain rfl := htext.unique htext'
          have hjson := h'.2.1
          rw [h.2.1] at hjson
          rw [Except.error.inj hjson]
  | rule htext hrules hi h =>
      cases h' with
      | rule htext' hrules' hi' h' =>
          obtain rfl := htext.unique htext'
          -- one text gives one set of rules, and the index picks one of them
          obtain rfl := hrules.unique hrules'
          rw [hi] at hi'
          cases hi'
          rw [h] at h'
          rw [Except.error.inj h']
  | token hsource =>
      cases h' with
      | token hsource' => rw [hsource.unique hsource']
  | placeholder hlist hsource hi h =>
      cases h' with
      | placeholder hlist' hsource' hi' h' =>
          obtain rfl := hlist.unique hlist'
          obtain rfl := hsource.unique hsource'
          rw [hi] at hi'
          cases hi'
          rw [h] at h'
          rw [Except.error.inj h']

/-- A check is the first one to fail of those from a stage on. -/
structure First (t : File.Tree) (o : Options) (stage : Nat) (k : Check) (fault : ConfigFault) :
    Prop where
  le : stage ≤ k.stage
  fails : Fails t o k fault
  before : ∀ k' fault', stage ≤ k'.stage → k'.Before k → ¬ Fails t o k' fault'

/-- A step makes the checks of the stages from one to below another: it succeeds only if none of
them fails, and otherwise has the fault of the first one that does. -/
structure Makes {α : Type} (t : File.Tree) (o : Options) (start stop : Nat) (x : Logged α) :
    Prop where
  passed : ∀ a, x.result = .ok a → ∀ k fault, start ≤ k.stage → k.stage < stop → ¬ Fails t o k fault
  refused : ∀ e, x.result = .error e →
    ∃ k fault, e = .config fault ∧ k.stage < stop ∧ First t o start k fault

section Makes

variable {α β : Type} {start middle stop : Nat} {x : Logged α} {f : α → Logged β}

theorem makes_pure (a : α) : Makes t o start start (pure a) where
  passed _ _ _ _ hle hlt := absurd hle (Nat.not_le.mpr hlt)
  refused _ h := by cases h

/-- Steps in sequence make their checks in sequence. -/
theorem Makes.bind (hle : start ≤ middle) (hle' : middle ≤ stop) (hx : Makes t o start middle x)
    (hf : ∀ a, x.result = .ok a → Makes t o middle stop (f a)) :
    Makes t o start stop (x >>= f) where
  passed b h k fault hstart hstop := by
    obtain ⟨a, ha, hb⟩ := Logged.bind_eq_ok h
    rcases Nat.lt_or_ge k.stage middle with hlt | hge
    · exact hx.passed a ha k fault hstart hlt
    · exact (hf a ha).passed b hb k fault hge hstop
  refused e h := by
    rcases Logged.bind_eq_error h with h | ⟨a, ha, h⟩
    · obtain ⟨k, fault, he, hlt, hfirst⟩ := hx.refused e h
      exact ⟨k, fault, he, Nat.lt_of_lt_of_le hlt hle', hfirst⟩
    · -- the first step succeeded, so none of its checks failed before
      obtain ⟨k, fault, he, hlt, hfirst⟩ := (hf a ha).refused e h
      refine ⟨k, fault, he, hlt, Nat.le_trans hle hfirst.le, hfirst.fails, ?_⟩
      intro k' fault' hstart hbefore
      rcases Nat.lt_or_ge k'.stage middle with hlt' | hge
      · exact hx.passed a ha k' fault' hstart hlt'
      · exact hfirst.before k' fault' hge hbefore

/-- A step for the one check of a stage. -/
theorem Makes.single {k : Check} (hk : ∀ i, Check.ofStage k.stage i = k)
    (h : ∀ e, x.result = .error e ↔ ∃ fault, e = .config fault ∧ Fails t o k fault) :
    Makes t o k.stage (k.stage + 1) x := by
  have honly : ∀ k' : Check, k'.stage = k.stage → k' = k := fun k' hk' => by
    rw [← Check.ofStage_stage k', hk', hk]
  constructor
  · intro a ha k' fault hle hlt hfails
    obtain rfl := honly k' (by omega)
    rw [(h _).mpr ⟨fault, rfl, hfails⟩] at ha
    cases ha
  · intro e he
    -- no other check has this stage
    obtain ⟨fault, rfl, hfails⟩ := (h e).mp he
    refine ⟨k, fault, rfl, Nat.lt_succ_self _, Nat.le_refl _, hfails, ?_⟩
    rintro k' fault' hle (hlt | ⟨hstage, hlt⟩)
    · exact absurd hle (Nat.not_le.mpr hlt)
    · rw [honly k' hstage] at hlt
      exact absurd hlt (Nat.lt_irrefl _)

/-- A step for a stage with one check for each member of a list. -/
theorem Makes.each {n : Nat} {xs : List α} {f : α → Except ConfigFault β}
    (hn : ∀ i, (Check.ofStage n i).stage = n ∧ (Check.ofStage n i).index = i)
    (h : ∀ i fault, Fails t o (Check.ofStage n i) fault ↔
      ∃ a, xs[i]? = some a ∧ f a = .error fault) :
    Makes t o n (n + 1) (.config (xs.mapM f)) := by
  have honly : ∀ k : Check, k.stage = n → k = .ofStage n k.index := fun k hk => by
    rw [← hk, Check.ofStage_stage]
  constructor
  · intro ys hys k fault hle hlt hfails
    rw [honly k (by omega)] at hfails
    obtain ⟨a, ha, herror⟩ := (h _ _).mp hfails
    obtain ⟨b, hb⟩ :=
      -- every member was compiled, also this one
      exists_of_mapM_eq_ok (Logged.config_eq_ok hys) (List.mem_of_getElem? ha)
    rw [herror] at hb
    cases hb
  · intro e he
    obtain ⟨fault, hfault, rfl⟩ := Logged.config_eq_error he
    obtain ⟨i, a, ha, herror, hbefore⟩ := of_mapM_eq_error hfault
    refine ⟨.ofStage n i, fault, rfl, ?_, ?_, (h i fault).mpr ⟨a, ha, herror⟩, ?_⟩
    · rw [(hn i).1]
      exact Nat.lt_succ_self n
    · rw [(hn i).1]
    · rintro k fault' hle (hlt | ⟨hstage, hlt⟩) hfails
      · rw [(hn i).1] at hlt
        exact absurd hle (Nat.not_le.mpr hlt)
      -- an earlier check of the stage is one for an earlier member, whose step succeeded
      · rw [(hn i).1] at hstage
        rw [(hn i).2] at hlt
        rw [honly k hstage] at hfails
        obtain ⟨a', ha', herror'⟩ := (h _ _).mp hfails
        obtain ⟨b, hb⟩ := hbefore k.index hlt a' ha'
        rw [herror'] at hb
        cases hb

theorem Makes.config_single {r : Except ConfigFault α} {k : Check}
    (hk : ∀ i, Check.ofStage k.stage i = k) (h : ∀ fault, r = .error fault ↔ Fails t o k fault) :
    Makes t o k.stage (k.stage + 1) (.config r) := by
  refine Makes.single hk fun e => ?_
  simp only [← h]
  constructor
  · intro he
    obtain ⟨fault, hfault, rfl⟩ := Logged.config_eq_error he
    exact ⟨fault, rfl, hfault⟩
  · rintro ⟨fault, rfl, rfl⟩
    rfl

theorem Makes.map {r : Except ConfigFault α} (g : α → β) (h : Makes t o start stop (.config r)) :
    Makes t o start stop (.config (r.map g)) := by
  cases r with
  | error fault =>
      refine ⟨fun b hb => (by cases hb), fun e he => h.refused e ?_⟩
      exact congrArg Except.error (Except.error.inj he)
  | ok a => exact ⟨fun _ _ => h.passed a rfl, fun e he => (by cases he)⟩

theorem Makes.congr {x y : Logged α} (h : Makes t o start stop x) (hxy : x.result = y.result) :
    Makes t o start stop y :=
  ⟨fun a ha => h.passed a (hxy.trans ha), fun e he => h.refused e (hxy.trans he)⟩

end Makes

/-! ### The steps of loading

One lemma for each step, that its faults are those of its checks. A step that works on the
values of earlier ones has these as hypotheses, and since options give one value only, it
does not matter by which of them a check would fail. -/

theorem makes_template :
    Makes t o 0 1 (.config (requireFile t o.template (.noTemplate o.template))) := by
  refine Makes.config_single (k := .template) (fun _ => rfl) fun fault => ?_
  rw [requireFile_eq_error_iff]
  constructor
  · rintro ⟨hfile, rfl⟩
    exact .template hfile
  · intro h
    cases h with
    | template hfile => exact ⟨hfile, rfl⟩

theorem makes_data : Makes t o 1 2 (.config (requireFile t o.data (.noData o.data))) := by
  refine Makes.config_single (k := .data) (fun _ => rfl) fun fault => ?_
  rw [requireFile_eq_error_iff]
  constructor
  · rintro ⟨hfile, rfl⟩
    exact .data hfile
  · intro h
    cases h with
    | data hfile => exact ⟨hfile, rfl⟩

theorem value_eq_error_iff_fails {s : Options.Source} {e : Error} :
    (OptionSource.value t (o.text s)).result = .error e ↔
      ∃ fault, e = .config fault ∧ Fails t o (.readable s) fault := by
  rw [OptionSource.value_eq_error_iff]
  constructor
  · rintro ⟨content, hread, htext, rfl⟩
    exact ⟨_, rfl, .readable hread htext⟩
  · rintro ⟨fault, rfl, h⟩
    cases h with
    | readable hread htext => exact ⟨_, hread, htext, rfl⟩

theorem makes_value (s : Options.Source) :
    Makes t o (Check.readable s).stage ((Check.readable s).stage + 1)
      (OptionSource.value t (o.text s)) :=
  Makes.single (Check.ofStage_readable s) fun _ => value_eq_error_iff_fails

theorem makes_lineValue (s : Options.Source) :
    Makes t o (Check.readable s).stage ((Check.readable s).stage + 1)
      (OptionSource.lineValue t (o.text s)) :=
  Makes.single (Check.ofStage_readable s) fun _ =>
    OptionSource.lineValue_eq_error_iff.trans value_eq_error_iff_fails

theorem makes_names {list : String} (hlist : GivesLine t o.variableList list) :
    Makes t o 3 4 (.config (Variables.parse list)) := by
  refine Makes.config_single (k := .names) (fun _ => rfl) fun fault => ?_
  rw [Variables.parse_eq]
  constructor
  · intro h
    split at h
    · next hempty =>
        rw [← Except.error.inj h]
        exact .names hlist hempty
    · cases h
  · intro h
    cases h with
    | names hlist' hempty =>
        obtain rfl := hlist.unique hlist'
        rw [if_pos hempty]

theorem makes_fileName {pattern : String} (hpattern : GivesLine t o.fileName pattern) :
    Makes t o 5 6 (.config (requireName pattern)) := by
  refine Makes.config_single (k := .fileName) (fun _ => rfl) fun fault => ?_
  unfold requireName Text.isBlank
  constructor
  · intro h
    split at h
    · next hblank =>
        rw [← Except.error.inj h]
        exact .fileName hpattern (List.all_eq_true.mp hblank)
    · cases h
  · intro h
    cases h with
    | fileName hpattern' hblank =>
        obtain rfl := hpattern.unique hpattern'
        rw [if_pos (List.all_eq_true.mpr hblank)]

theorem makes_rules {text : String} (htext : Gives t o.modifier text) :
    Makes t o 7 8 (.config (Modifier.rulesOf text)) := by
  refine Makes.config_single (k := .rules) (fun _ => rfl) fun fault => ?_
  rw [Modifier.rulesOf_eq_error_iff]
  constructor
  · rintro ⟨e, h, rfl⟩
    exact .rules htext h
  · intro h
    cases h with
    | rules htext' h =>
        obtain rfl := htext.unique htext'
        exact ⟨_, h, rfl⟩

theorem makes_rule {text : String} {rules : Record} (htext : Gives t o.modifier text)
    (hrules : Modifier.Writes text rules) : Makes t o 8 9 (.config (Modifier.ofRecord rules)) := by
  unfold Modifier.ofRecord
  rw [Modifier.compileRules_eq_mapM]
  refine (Makes.each (fun _ => ⟨rfl, rfl⟩) fun i fault => ?_).map Modifier.mk
  constructor
  · intro h
    cases h with
    | rule htext' hrules' hi h =>
        obtain rfl := htext.unique htext'
        obtain rfl := hrules.unique hrules'
        refine ⟨_, hi, ?_⟩
        rw [compilePattern_eq_error_iff.mpr ⟨_, h, rfl⟩]
        rfl
  · rintro ⟨⟨pattern, replacement⟩, hi, h⟩
    cases hcompile : compilePattern pattern with
    | ok re => rw [hcompile] at h; cases h
    | error fault' =>
        rw [hcompile] at h
        obtain ⟨e, he, hfault⟩ := compilePattern_eq_error_iff.mp hcompile
        rw [← Except.error.inj h, hfault]
        exact .rule htext hrules hi he

theorem makes_modifier {text : String} (htext : Gives t o.modifier text) :
    Makes t o 7 9 (.config (Modifier.parse text)) := by
  have hmakes : Makes t o 7 9 (Logged.config (Modifier.rulesOf text) >>=
      fun rules => .config (Modifier.ofRecord rules)) :=
    -- the rules first, and then the pattern of each
    (makes_rules htext).bind (by decide) (by decide) fun rules hrules =>
      makes_rule htext (Modifier.rulesOf_eq_ok_iff.mp (Logged.config_eq_ok hrules))
  refine hmakes.congr ?_
  rw [Modifier.parse_eq, Logged.result_bind]
  cases Modifier.rulesOf text <;> rfl

theorem makes_token {source : String} (hsource : GivesLine t o.placeholder source) :
    Makes t o 10 11 (.config (Placeholder.ofString source)) := by
  refine Makes.config_single (k := .token) (fun _ => rfl) fun fault => ?_
  unfold Placeholder.ofString
  constructor
  · intro h
    split at h
    · cases h
    · next htoken =>
        rw [← Except.error.inj h]
        exact .token hsource fun hinfix => htoken (Text.contains_iff.mpr hinfix)
  · intro h
    cases h with
    | token hsource' htoken =>
        obtain rfl := hsource.unique hsource'
        rw [dif_neg fun h => htoken (Text.contains_iff.mp h)]

theorem makes_placeholder {list : String} {p : Placeholder}
    (hlist : GivesLine t o.variableList list) (hsource : GivesLine t o.placeholder p.source) :
    Makes t o 11 12 (.config (Filler.ofNames p (Variables.split list))) := by
  unfold Filler.ofNames
  rw [Filler.compileAll_eq_mapM]
  refine (Makes.each (fun _ => ⟨rfl, rfl⟩) fun i fault => ?_).map Filler.mk
  constructor
  · intro h
    cases h with
    | placeholder hlist' hsource' hi h =>
        obtain rfl := hlist.unique hlist'
        obtain rfl := hsource.unique hsource'
        refine ⟨_, hi, ?_⟩
        rw [Placeholder.compile, Placeholder.patternFor,
          compilePattern_eq_error_iff.mpr ⟨_, h, rfl⟩]
        rfl
  · rintro ⟨v, hi, h⟩
    cases hcompile : p.compile v with
    | ok re => rw [hcompile] at h; cases h
    | error fault' =>
        rw [hcompile] at h
        obtain ⟨e, he, hfault⟩ := compilePattern_eq_error_iff.mp hcompile
        rw [← Except.error.inj h, hfault]
        exact .placeholder hlist hsource hi he

/-- Loading makes all checks. -/
theorem makes_load : Makes t o 0 12 (load t o) := by
  -- each step makes the next stages, and what it gives is what the steps behind it check
  unfold load
  refine makes_template.bind (by decide) (by decide) fun _ _ => ?_
  refine makes_data.bind (by decide) (by decide) fun _ _ => ?_
  refine (makes_lineValue .variableList).bind (by decide) (by decide) fun list hlist => ?_
  have hlist := OptionSource.lineValue_eq_ok_iff.mp hlist
  -- what can be read is a list without an empty name, and the names are its segments
  refine (makes_names hlist).bind (by decide) (by decide) fun names hnames => ?_
  obtain ⟨-, rfl⟩ := Variables.parse_eq_ok_iff.mp (Logged.config_eq_ok hnames)
  refine (makes_lineValue .fileName).bind (by decide) (by decide) fun pattern hpattern => ?_
  have hpattern := OptionSource.lineValue_eq_ok_iff.mp hpattern
  refine (makes_fileName hpattern).bind (by decide) (by decide) fun _ _ => ?_
  refine (makes_value .modifier).bind (by decide) (by decide) fun text htext => ?_
  have htext := OptionSource.value_eq_ok_iff.mp htext
  refine (makes_modifier htext).bind (by decide) (by decide) fun modifier _ => ?_
  refine (makes_lineValue .placeholder).bind (by decide) (by decide) fun source hsource => ?_
  have hsource := OptionSource.lineValue_eq_ok_iff.mp hsource
  refine (makes_token hsource).bind (by decide) (by decide) fun p hp => ?_
  obtain rfl := Placeholder.ofString_eq_ok (Logged.config_eq_ok hp)
  refine (makes_placeholder hlist hsource).bind (by decide) (by decide) fun filler _ => ?_
  exact makes_pure _

/-! ### What a configuration keeps

Not everything that was checked is worth keeping: that the files were there may change
behind the checks. What is kept concerns the configuration alone. -/

/-- What has been checked of a configuration. -/
structure Sound (c : Config) : Prop where
  names_ne_nil : c.names ≠ []
  /-- Names are not empty, hold no comma, and have no white space at their ends. -/
  names : ∀ v ∈ c.names, v ≠ "" ∧ ',' ∉ v.toList ∧
    (∀ ch ∈ v.toList.head?, Text.isWhite ch = false) ∧
    ∀ ch ∈ v.toList.getLast?, Text.isWhite ch = false
  fileName_not_blank : ∃ ch ∈ c.fileName.toList, Text.isWhite ch = false
  fileName_last : ∀ ch ∈ c.fileName.toList.getLast?, ch ≠ '\r' ∧ ch ≠ '\n'
  token : variableToken.toList <:+: c.placeholder.source.toList
  /-- The filler has one pattern for each name, in order, compiled from the name's placeholder. -/
  filler : List.Forall₂ (fun v e => e.1 = v ∧ Regex.compile? (c.placeholder.patternFor v) = .ok e.2)
    c.names c.filler.placeholders

theorem sound_of_load {c : Config} (h : (load t o).result = .ok c) : c.Sound := by
  unfold load at h
  obtain ⟨_, -, h⟩ := Logged.bind_eq_ok h
  obtain ⟨_, -, h⟩ := Logged.bind_eq_ok h
  obtain ⟨list, -, h⟩ := Logged.bind_eq_ok h
  obtain ⟨names, hnames, h⟩ := Logged.bind_eq_ok h
  obtain ⟨pattern, hpattern, h⟩ := Logged.bind_eq_ok h
  obtain ⟨_, hname, h⟩ := Logged.bind_eq_ok h
  obtain ⟨text, -, h⟩ := Logged.bind_eq_ok h
  obtain ⟨modifier, -, h⟩ := Logged.bind_eq_ok h
  obtain ⟨source, -, h⟩ := Logged.bind_eq_ok h
  obtain ⟨p, -, h⟩ := Logged.bind_eq_ok h
  obtain ⟨filler, hfiller, h⟩ := Logged.bind_eq_ok h
  obtain rfl := Except.ok.inj h
  obtain ⟨hempty, rfl⟩ := Variables.parse_eq_ok_iff.mp (Logged.config_eq_ok hnames)
  obtain ⟨line, -, rfl⟩ := OptionSource.lineValue_eq_ok_iff.mp hpattern
  refine ⟨Variables.split_ne_nil list, fun v hv => ?_, ?_, fun ch hch => ?_,
    Text.contains_iff.mp p.hasVariable, Filler.forall₂_of_ofNames (Logged.config_eq_ok hfiller)⟩
  · exact ⟨fun hv' => hempty (hv' ▸ hv), Variables.of_mem_split hv⟩
  -- a pattern that is blank would have been refused
  · apply Text.isBlank_eq_false_iff.mp
    exact Bool.eq_false_iff.mpr (not_of_eq_ok (Logged.config_eq_ok hname) requireName_fails_iff)
  · have hline := Text.isLineEnd_last_dropLineEnds hch
    simpa [Text.isLineEnd] using hline

/-- **Options make a configuration exactly if no check fails. Otherwise the fault is that of the
first check that does, and what has been checked holds of every configuration.** -/
theorem load_checks (t : File.Tree) (o : Options) :
    ((∃ c, (load t o).result = .ok c) ↔ ∀ k fault, ¬ Fails t o k fault) ∧
    (∀ e, (load t o).result = .error e ↔ ∃ k fault, e = .config fault ∧ Fails t o k fault ∧
      ∀ k' fault', k'.Before k → ¬ Fails t o k' fault') ∧
    ∀ c, (load t o).result = .ok c → c.Sound := by
  -- loading makes all twelve stages, so a success has passed every check
  have hpassed : ∀ {c}, (load t o).result = .ok c → ∀ k fault, ¬ Fails t o k fault :=
    fun hc k fault => makes_load.passed _ hc k fault (Nat.zero_le _) k.stage_lt
  have hrefused : ∀ {e}, (load t o).result = .error e → ∃ k fault, e = .config fault ∧
      Fails t o k fault ∧ ∀ k' fault', k'.Before k → ¬ Fails t o k' fault' := by
    intro e he
    obtain ⟨k, fault, he, -, hfirst⟩ := makes_load.refused e he
    exact ⟨k, fault, he, hfirst.fails, fun k' fault' => hfirst.before k' fault' (Nat.zero_le _)⟩
  refine ⟨⟨fun ⟨c, hc⟩ => hpassed hc, fun hnone => ?_⟩, fun e => ⟨hrefused, ?_⟩,
    fun c => sound_of_load⟩
  · cases h : (load t o).result with
    | ok c => exact ⟨c, rfl⟩
    | error e =>
        obtain ⟨k, fault, -, hfails, -⟩ := hrefused h
        exact absurd hfails (hnone k fault)
  · rintro ⟨k, fault, rfl, hfails, hbefore⟩
    cases h : (load t o).result with
    | ok c => exact absurd hfails (hpassed h k fault)
    | error e =>
        -- neither of two first failures is before the other, and a check fails in one way only
        obtain ⟨k', fault', rfl, hfails', hbefore'⟩ := hrefused h
        rcases k.trichotomy k' with hlt | rfl | hlt
        · exact absurd hfails (hbefore' k fault hlt)
        · rw [hfails.unique hfails']
        · exact absurd hfails' (hbefore k' fault' hlt)

/-- Of three faults the first one is reported; without them the configuration is sound. -/
theorem load_checks_of_three_faults :
    let o := { literalOptions with fileName := " ", modifier := "1", placeholder := "@" }
    (load optionTree o).result = .error (.config .blankFileName) ∧
    (∃ k, Fails optionTree o k .blankFileName ∧
      ∀ k' fault', k'.Before k → ¬ Fails optionTree o k' fault') ∧
    ∃ c, (load optionTree literalOptions).result = .ok c ∧ c.Sound := by
  intro o
  have herror : (load optionTree o).result = .error (.config .blankFileName) := by decide +kernel
  refine ⟨herror, ?_, ?_⟩
  · obtain ⟨k, fault, he, hfails, hbefore⟩ := ((load_checks optionTree o).2.1 _).mp herror
    obtain rfl := Error.config.inj he
    exact ⟨k, hfails, hbefore⟩
  · obtain ⟨c, hc⟩ := exists_of_isOk (r := (load optionTree literalOptions).result)
      (by decide +kernel)
    exact ⟨c, hc, (load_checks optionTree literalOptions).2.2 c hc⟩

end Config
end MailMerge
