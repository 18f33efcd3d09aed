import MailMerge.Proofs.Json.Object
import MailMerge.Proofs.Modifier
import MailMerge.Proofs.Yaml.Json
import MailMerge.Proofs.Yaml.Lines

/-!
# Which language rules are written in

A text is read as JSON first. Where that fails the fault alone decides whether the text is read as
YAML: a `Json.Misfit` is not. So a document of JSON that is no object of texts is refused, unless the
reader comes upon a number out of its range (`parse_document`), and rules in YAML are taken, unless
the text begins like JSON of the wrong kind, as it does with a first key in double quotes
(`parse_yaml`).
-/

namespace MailMerge.Modifier

variable {text : String}

/-! ### Blank texts

A blank text stands for no rules and is not read at all. What begins with a token of JSON is
not blank, since the tokens begin with characters that are no white space. -/

theorem isWhite_of_isDigit {d : Char} (hd : d.isDigit = true) : Text.isWhite d = false := by
  have hcontrol : ¬ d ≤ '\r' := by
    simp only [Char.isDigit, Bool.and_eq_true, decide_eq_true_eq, UInt32.le_iff_toNat_le,
      Char.le_def] at hd ⊢
    exact fun h => absurd (Nat.le_trans hd.1 h) (by decide)
  have hspaces : ¬ '\u2000' ≤ d := by
    simp only [Char.isDigit, Bool.and_eq_true, decide_eq_true_eq, UInt32.le_iff_toNat_le,
      Char.le_def] at hd ⊢
    exact fun h => absurd (Nat.le_trans h hd.2) (by decide)
  simp (disch := decide) only [Text.isWhite, Json.ne_of_isDigit hd, hcontrol, hspaces,
    beq_eq_false_iff_ne, decide_false, Bool.and_false, Bool.false_and, Bool.or_false, ne_eq,
    not_false_eq_true, Bool.or_eq_false_iff, and_self]

theorem isBlank_of_gap {c : Char} {rest : List Char} (h : Json.Gap text.toList (c :: rest))
    (hc : Text.isWhite c = false) : Text.isBlank text = false := by
  obtain ⟨space, -, hcons⟩ := Yaml.Taken.of_gap h
  rw [Text.isBlank, hcons, List.all_append, List.all_cons, hc, Bool.false_and, Bool.and_false]

theorem isBlank_of_document (h : Json.Document text.toList) : Text.isBlank text = false := by
  obtain ⟨v, a, hgap, hvalue, -⟩ := h
  cases hvalue with
  | number hmagnitude =>
      obtain ⟨d, ds, rfl, hd⟩ := hmagnitude.exists_cons
      exact isBlank_of_gap hgap (isWhite_of_isDigit hd)
  | _ => exact isBlank_of_gap hgap (by decide)

/-! ### JSON or YAML

Two languages are tried, and whether the second one is depends on the fault found by the
first. The faults that exclude it are those of a `Misfit`; what comes of any other text is
what YAML makes of it. -/

/-- What a text becomes that is read as YAML, `e` being the fault found in JSON. -/
def parseYaml (text : String) (e : Json.Error) : Except ConfigFault Modifier :=
  match Yaml.parse? text with
  | some rules => ofRecord rules
  | none => .error (.notRules e)

theorem parse_of_error {e : Json.Error} (hblank : Text.isBlank text = false)
    (h : Json.parse text = .error e) :
    parse text = if e.isWrongType then .error (.notRules e) else parseYaml text e := by
  simp only [parse, hblank, Bool.false_eq_true, if_false, readRules, h]
  split
  · rfl
  · unfold parseYaml
    cases Yaml.parse? text <;> rfl

theorem parse_eq_error {s : Json.Stop} (h : Json.readObject text.toList = .error s) :
    Json.parse text = .error (s.toError text) := by
  rw [Json.parse, h]

/-- A misfit is refused. -/
theorem parse_of_misfit (hblank : Text.isBlank text = false) (h : Json.Misfit text.toList) :
    ∃ e, Json.parse text = .error e ∧ parse text = .error (.notRules e) := by
  obtain ⟨s, hs, hfault⟩ := Json.misfit_iff.mpr h
  have hread := parse_eq_error hs
  refine ⟨_, hread, ?_⟩
  rw [parse_of_error hblank hread]
  exact if_pos hfault

/-- Of what is neither an object of texts nor a misfit YAML decides. -/
theorem parse_of_not_misfit (hblank : Text.isBlank text = false)
    (hflat : ¬ Json.FlatDocument text.toList) (h : ¬ Json.Misfit text.toList) :
    ∃ e, Json.parse text = .error e ∧ parse text = parseYaml text e := by
  cases hs : Json.readObject text.toList with
  | ok r => exact absurd (Json.flatDocument_of_readObject hs) hflat
  | error s =>
      have hread := parse_eq_error hs
      refine ⟨_, hread, ?_⟩
      rw [parse_of_error hblank hread]
      exact if_neg fun hfault => h (Json.misfit_iff.mp ⟨s, hs, hfault⟩)

/-- A document that is no object of texts is refused, unless all before the first value that is no
text is in order and this value is a number out of range. Then it is read as YAML. -/
theorem parse_document (hdoc : Json.Document text.toList)
    (hflat : ¬ Json.FlatDocument text.toList) :
    ∃ e, Json.parse text = .error e ∧
      (¬ Json.Overflow text.toList → parse text = .error (.notRules e)) ∧
      (Json.Overflow text.toList →
        e.fault = .numberOutOfRange ∧ parse text = parseYaml text e) := by
  have hblank := isBlank_of_document hdoc
  -- a misfit, an overflow, or a document refused for what YAML refuses as well
  by_cases hmisfit : Json.Misfit text.toList
  · obtain ⟨e, hread, hparse⟩ := parse_of_misfit hblank hmisfit
    -- of two faults the reader reports one, so no misfit is an overflow
    exact ⟨e, hread, fun _ => hparse, fun hover => absurd hmisfit hover.not_misfit⟩
  · obtain ⟨e, hread, hparse⟩ := parse_of_not_misfit hblank hflat hmisfit
    refine ⟨e, hread, fun hover => ?_, fun hover => ⟨?_, hparse⟩⟩
    · have hrefused : Json.Refused text.toList := by
        rcases hdoc.cases with h | h | h | h
        · exact absurd h hflat
        · exact absurd h hmisfit
        · exact absurd h hover
        · exact h
      rw [hparse, parseYaml, Yaml.parse?_of_refused hrefused]
    · obtain ⟨s, hs, hfault⟩ := Json.readObject_of_overflow hover
      obtain rfl := Except.error.inj ((parse_eq_error hs).symm.trans hread)
      exact hfault

/-- The text `null` for a value is refused. -/
theorem parse_document_of_null : ∃ e, parse "\x7b\"a\": null\x7d" = .error (.notRules e) := by
  have hkey : Json.Key Json.Spelled ['"', 'a', '"', ':', ' ', 'n', 'u', 'l', 'l', '\x7d']
      ['n', 'u', 'l', 'l', '\x7d'] :=
    ⟨.none, ⟨['a'], .raw (by decide) (by decide) (by decide) .close⟩, .none, .space rfl .none⟩
  have hmisfit : Json.Misfit "\x7b\"a\": null\x7d".toList :=
    .member .none (.here hkey) .null (by decide)
  have hdoc : Json.Document "\x7b\"a\": null\x7d".toList :=
    ⟨_, [], .none, .object (.last hkey.body .null .none), .none⟩
  obtain ⟨e, -, hparse, -⟩ := parse_document hdoc hmisfit.not_flat
  exact ⟨e, hparse fun hover => hover.not_misfit hmisfit⟩

/-- A number out of range becomes a text: a document that is no object of texts makes a rule. -/
theorem parse_document_of_overflow :
    Json.Document "\x7b\"a\": 1e999\x7d".toList ∧
      ¬ Json.FlatDocument "\x7b\"a\": 1e999\x7d".toList ∧
      (parse "\x7b\"a\": 1e999\x7d").map describe = .ok "'a' with '1e999'" := by
  have hkey : Json.Key Json.Spelled
      ['"', 'a', '"', ':', ' ', '1', 'e', '9', '9', '9', '\x7d']
      ['1', 'e', '9', '9', '9', '\x7d'] :=
    ⟨.none, ⟨['a'], .raw (by decide) (by decide) (by decide) .close⟩, .none, .space rfl .none⟩
  have hnumber : Json.Magnitude ['1', 'e', '9', '9', '9', '\x7d'] ['\x7d'] :=
    ⟨_, _, .digits (by decide) ⟨['1'], by simp, by simp, rfl, by simp⟩, .none (by simp),
      .digits (Or.inl rfl) .none ⟨['9', '9', '9'], by simp, by simp, rfl, by simp⟩⟩
  have hover : Json.Overflow "\x7b\"a\": 1e999\x7d".toList :=
    ⟨_, _, .none, .here hkey, .number hnumber ⟨_, rfl⟩⟩
  refine ⟨⟨_, [], .none, .object (.last hkey.body (.number hnumber) .none), .none⟩,
    hover.not_flat, ?_⟩
  decide +kernel

/-! ### Rules on lines

Rules on lines begin with a text in quotes, to which JSON looks for its own reasons: a text
in double quotes that JSON can read is a value of the wrong kind to it, and in single
quotes, or with an escape that JSON does not know, it is nothing at all. -/

/-- What YAML reads in double quotes and the grammar of JSON allows there is read by JSON too, up to
the same quote. -/
theorem spelled_of_body {t body more rest : List Char} (h : Yaml.Spells false t body)
    (hbody : Json.Body (body ++ '"' :: more) rest) :
    rest = more ∧ ∀ more', Json.Spelled (body ++ '"' :: more') more' := by
  generalize hsingle : false = single at h
  induction h with
  | nil =>
      cases hbody with
      | close => exact ⟨rfl, fun _ => ⟨[], .close⟩⟩
      | raw _ hquote => exact absurd rfl hquote
  | raw _ _ hquote hslash _ ih =>
      subst hsingle
      obtain ⟨hc, hbody⟩ := hbody.of_raw hquote (hslash rfl)
      obtain ⟨hrest, hspelled⟩ := ih hbody rfl
      refine ⟨hrest, fun more' => ?_⟩
      obtain ⟨s, hs⟩ := hspelled more'
      exact ⟨_, .raw hc hquote (hslash rfl) hs⟩
  | quote => cases hsingle
  | escape hl _ ih =>
      rcases hbody.of_escape with ⟨hshort, hbody⟩ | ⟨rfl, -⟩
      · obtain ⟨hrest, hspelled⟩ := ih hbody rfl
        obtain ⟨d, hd⟩ := Option.isSome_iff_exists.mp hshort
        refine ⟨hrest, fun more' => ?_⟩
        obtain ⟨s, hs⟩ := hspelled more'
        exact ⟨_, .escape (.short hd) hs⟩
      · -- behind a `u` YAML wants digits too
        cases hl
  | @code l ds s cs hl hds hvalid _ ih =>
      rcases hbody.of_escape with ⟨hshort, -⟩ | ⟨rfl, a, b, c, d, cs', hcons, hcode, hbody⟩
      · unfold Yaml.escapeDigits? at hl
        split at hl
        all_goals first | cases hshort | cases hl
      · have hfour : ds.length = 4 := (Option.some.inj hl).symm
        have happ : ds ++ (cs ++ '"' :: more) = [a, b, c, d] ++ cs' := by simpa using hcons
        obtain ⟨rfl, rfl⟩ := List.append_inj happ (by simpa using hfour)
        obtain ⟨hrest, hspelled⟩ := ih hbody rfl
        obtain ⟨n, hn⟩ := Option.isSome_iff_exists.mp hcode
        -- YAML takes no half of a pair, so the code is a character for JSON too
        rw [(Yaml.hexNumber_of_hex4? hn).1] at hvalid
        refine ⟨hrest, fun more' => ?_⟩
        obtain ⟨s, hs⟩ := hspelled more'
        exact ⟨_, .escape (.code hn (Yaml.isSurrogate_of_isValidChar hvalid)) hs⟩

variable {l : Yaml.Line} {lines : List Yaml.Line} {cs : List Char}

/-- Lines begin with the first key, in quotes of one kind or the other. -/
theorem lines_cases (h : Yaml.Lines (l :: lines) cs) :
    (l.key.single = true ∧ ∃ more, cs = '\'' :: more) ∨
      (l.key.single = false ∧ ∃ more, cs = '"' :: (l.key.body ++ '"' :: ':' :: more)) := by
  obtain ⟨_, _, hcons, more, rfl⟩ := h.exists_cons
  obtain ⟨rfl, rfl⟩ := List.cons.inj hcons
  cases hsingle : l.key.single with
  | true =>
      refine Or.inl ⟨rfl, ?_⟩
      simp [Yaml.Line.written, Yaml.Quotation.written, Yaml.quoteOf, hsingle]
  | false =>
      refine Or.inr ⟨rfl, ' ' :: (l.value.written ++ more), ?_⟩
      simp [Yaml.Line.written, Yaml.Quotation.written, Yaml.quoteOf, hsingle]

/-- Lines are no document of JSON. -/
theorem not_document_of_lines (h : Yaml.Lines (l :: lines) cs) : ¬ Json.Document cs := by
  rintro ⟨v, a, hgap, hvalue, hbehind⟩
  -- a document begins with no single quote; in double quotes it would be a text, and nothing
  -- could follow it
  rcases lines_cases h with ⟨-, more, rfl⟩ | ⟨hsingle, more, rfl⟩
  · obtain rfl := Json.eq_of_gap hgap (by decide)
    cases hvalue with
    | number hmagnitude => exact absurd hmagnitude.isDigit (by decide)
  · obtain rfl := Json.eq_of_gap hgap (by decide)
    cases hvalue with
    | number hmagnitude => exact absurd hmagnitude.isDigit (by decide)
    | text hbody =>
        -- a colon is left behind the value
        obtain ⟨rfl, -⟩ := spelled_of_body (hsingle ▸ l.key.spells) hbody
        cases Json.eq_of_gap hbehind (by decide)

/-- Lines are a misfit exactly if the first key is written as a text of JSON. -/
theorem misfit_iff_of_lines (h : Yaml.Lines (l :: lines) cs) :
    Json.Misfit cs ↔ Json.Quoted Json.Spelled l.key.written [] := by
  constructor
  · intro hmisfit
    -- in single quotes the text is no value; in double quotes it is a misfit if JSON can read it
    rcases lines_cases h with ⟨-, more, rfl⟩ | ⟨hsingle, more, rfl⟩
    · cases hmisfit with
      | top hgap hstart =>
          obtain rfl := Json.eq_of_gap hgap (by decide)
          cases hstart with
          | number hmagnitude => exact absurd hmagnitude.isDigit (by decide)
      | member hgap => cases Json.eq_of_gap hgap (by decide)
    · cases hmisfit with
      | top hgap hstart =>
          obtain rfl := Json.eq_of_gap hgap (by decide)
          cases hstart with
          | number hmagnitude => exact absurd hmagnitude.isDigit (by decide)
          | text hspelled =>
              obtain ⟨-, hspelled⟩ := spelled_of_body (hsingle ▸ l.key.spells) hspelled.body
              exact ⟨_, by simp [Yaml.Quotation.written, Yaml.quoteOf, hsingle], hspelled []⟩
      | member hgap => cases Json.eq_of_gap hgap (by decide)
  · rintro ⟨body, hwritten, hspelled⟩
    obtain ⟨hquote, rfl⟩ := List.cons.inj hwritten
    rcases lines_cases h with ⟨hsingle, -⟩ | ⟨hsingle, more, rfl⟩
    · rw [hsingle] at hquote
      cases hquote
    · rw [hquote] at hspelled
      obtain ⟨-, hspelled⟩ := spelled_of_body (hsingle ▸ l.key.spells) hspelled.body
      exact .top .none (.text (hspelled _)) (by simp)

theorem isBlank_of_lines (h : Yaml.Lines (l :: lines) text.toList) : Text.isBlank text = false := by
  rcases lines_cases h with ⟨-, more, hcons⟩ | ⟨-, more, hcons⟩
  · exact isBlank_of_gap (by rw [hcons]; exact .none) (by decide)
  · exact isBlank_of_gap (by rw [hcons]; exact .none) (by decide)

/-- Rules that YAML reads are refused if the text is a misfit, and make a modifier if not. -/
theorem parse_of_parse? {rules : Record} (hblank : Text.isBlank text = false)
    (hdoc : ¬ Json.Document text.toList) (hyaml : Yaml.parse? text = some rules)
    (hcompile : ∀ rule ∈ rules.entries, ∃ re, Regex.compile? rule.1 = .ok re) :
    (¬ Json.Misfit text.toList → ∃ m, parse text = .ok m ∧ m.written = rules.entries) ∧
      (Json.Misfit text.toList → ∃ e, parse text = .error (.notRules e)) := by
  constructor
  · intro hmisfit
    obtain ⟨e, -, hparse⟩ :=
      parse_of_not_misfit hblank (fun hflat => hdoc hflat.document) hmisfit
    obtain ⟨m, hm, hwritten⟩ := exists_ofRecord hcompile
    exact ⟨m, by rw [hparse, parseYaml, hyaml]; exact hm, hwritten⟩
  · intro hmisfit
    obtain ⟨e, -, hparse⟩ := parse_of_misfit hblank hmisfit
    exact ⟨e, hparse⟩

/-- A text that is no JSON and that YAML reads as rules makes a modifier with these rules, unless it
is a misfit. Rules on lines are one exactly if the first key is written as a text of JSON. -/
theorem parse_yaml :
    (∀ rules : Record, Text.isBlank text = false → ¬ Json.Document text.toList →
      Yaml.parse? text = some rules →
      (∀ rule ∈ rules.entries, ∃ re, Regex.compile? rule.1 = .ok re) →
      (¬ Json.Misfit text.toList → ∃ m, parse text = .ok m ∧ m.written = rules.entries) ∧
        (Json.Misfit text.toList → ∃ e, parse text = .error (.notRules e))) ∧
    (∀ (l : Yaml.Line) (lines : List Yaml.Line), Yaml.Lines (l :: lines) text.toList →
      ((l :: lines).map fun line => line.rule.1).Nodup →
      (∀ line ∈ l :: lines, ∃ re, Regex.compile? line.rule.1 = .ok re) →
      (¬ Json.Quoted Json.Spelled l.key.written [] →
          ∃ m, parse text = .ok m ∧ m.written = (l :: lines).map Yaml.Line.rule) ∧
        (Json.Quoted Json.Spelled l.key.written [] → ∃ e, parse text = .error (.notRules e))) := by
  refine ⟨fun rules => parse_of_parse?, fun l lines hlines hnodup hcompile => ?_⟩
  have hentries : (Record.ofList ((l :: lines).map Yaml.Line.rule)).entries =
      (l :: lines).map Yaml.Line.rule :=
    Record.entries_ofList (by rwa [List.map_map])
  have hparse := parse_of_parse? (isBlank_of_lines hlines) (not_document_of_lines hlines)
    (Yaml.parse?_of_lines hlines) (by rw [hentries]; simpa using hcompile)
  rwa [hentries, misfit_iff_of_lines hlines] at hparse

/-- A rule in single quotes and one without quotes. -/
theorem parse_yaml_of_singleQuotes :
    (∃ m, parse "';': \"b\"\n" = .ok m ∧ m.written = [(";", "b")]) ∧
      ∃ m, parse "a: b" = .ok m ∧ m.written = [("a", "b")] := by
  constructor
  · let l : Yaml.Line := {
      key := ⟨true, [';'], [';'], .raw (by decide) (by decide) (by decide) nofun .nil⟩
      value := ⟨false, ['b'], ['b'],
        .raw (by decide) (by decide) (by decide) (fun _ => by decide) .nil⟩
      short := by decide }
    have hkey : ¬ Json.Quoted Json.Spelled l.key.written [] := by
      rintro ⟨body, hcons, -⟩
      cases hcons
    have hcompile : ∀ line ∈ [l], ∃ re, Regex.compile? line.rule.1 = .ok re :=
      List.forall_mem_singleton.mpr (exists_of_isOk (by decide +kernel))
    obtain ⟨hrules, -⟩ := (@parse_yaml "';': \"b\"\n").2 l [] (.ended l) (by decide) hcompile
    exact hrules hkey
  · have hdoc : ¬ Json.Document "a: b".toList := by
      rintro ⟨v, a, hgap, hvalue, -⟩
      obtain rfl := Json.eq_of_gap hgap (by decide)
      cases hvalue with
      | number hmagnitude => exact absurd hmagnitude.isDigit (by decide)
    have hmisfit : ¬ Json.Misfit "a: b".toList := by
      intro hmisfit
      cases hmisfit with
      | top hgap hstart =>
          obtain rfl := Json.eq_of_gap hgap (by decide)
          cases hstart with
          | number hmagnitude => exact absurd hmagnitude.isDigit (by decide)
      | member hgap => cases Json.eq_of_gap hgap (by decide)
    have hcompile : ∀ rule ∈ [("a", "b")], ∃ re, Regex.compile? rule.1 = .ok re :=
      List.forall_mem_singleton.mpr (exists_of_isOk (by decide +kernel))
    obtain ⟨hrules, -⟩ := (@parse_yaml "a: b").1 ⟨[("a", "b")]⟩ (by decide) hdoc
      (by decide +kernel) hcompile
    exact hrules hmisfit

/-- A rule that YAML reads and that is refused, its key being a text of JSON. -/
theorem parse_yaml_of_doubleQuotes :
    Text.isBlank "\"a\": \"b\"" = false ∧ ¬ Json.Document "\"a\": \"b\"".toList ∧
      Yaml.parse? "\"a\": \"b\"" = some ⟨[("a", "b")]⟩ ∧ (Regex.compile? "a").isOk = true ∧
      ∃ e, parse "\"a\": \"b\"" = .error (.notRules e) := by
  let l : Yaml.Line := {
    key := ⟨false, ['a'], ['a'], .raw (by decide) (by decide) (by decide) (fun _ => by decide) .nil⟩
    value := ⟨false, ['b'], ['b'],
      .raw (by decide) (by decide) (by decide) (fun _ => by decide) .nil⟩
    short := by decide }
  have hlines : Yaml.Lines [l] "\"a\": \"b\"".toList := .last l
  have hkey : Json.Quoted Json.Spelled l.key.written [] :=
    ⟨_, rfl, ['a'], .raw (by decide) (by decide) (by decide) .close⟩
  obtain ⟨e, -, hparse⟩ := parse_of_misfit (isBlank_of_lines hlines)
    ((misfit_iff_of_lines hlines).mpr hkey)
  exact ⟨isBlank_of_lines hlines, not_document_of_lines hlines, Yaml.parse?_of_lines hlines,
    by decide +kernel, e, hparse⟩

end MailMerge.Modifier
