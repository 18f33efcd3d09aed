import MailMerge.Proofs.Config
import MailMerge.Proofs.Text.Parts

/-!
# What the parsers of options tell

The names of a list are what stands between its commas (`Variables.split`), and neither hold a comma
nor have white space at their ends (`Variables.of_mem_split`). A text writes rules in JSON or in YAML
(`Modifier.Writes`) or is reported with the fault that was found in JSON (`Modifier.Misshapen`). A
filler has a compiled placeholder for each name, in order (`Filler.forall₂_of_ofNames`).
-/

namespace MailMerge

/-! ### Lists of variables

A list is cut at its commas and trimmed, and only then looked at. So whether it can be read
is told by the names that would come out of it. -/

/-- The names between the commas of a list. -/
def Variables.split (list : String) : List String :=
  (list.toList.splitOn ',').map fun piece => String.ofList (Text.trimChars piece)

theorem Variables.parse_eq (list : String) :
    parse list = if "" ∈ split list then .error (.emptyName list) else .ok (split list) := by
  have hempty : (((list.toList.splitOn ',').map Text.trimChars).any List.isEmpty = true) ↔
      "" ∈ split list := by
    simp [split]
  unfold parse
  simp only [hempty, split, List.map_map]
  rfl

theorem Variables.parse_eq_ok_iff {list : String} {names : List String} :
    parse list = .ok names ↔ "" ∉ split list ∧ names = split list := by
  rw [parse_eq]
  split
  · next hempty => simp [hempty]
  · next hempty => simp [hempty, eq_comm]

theorem Variables.split_ne_nil (list : String) : split list ≠ [] := by
  unfold split
  rw [Ne, List.map_eq_nil_iff]
  exact List.splitOn_ne_nil ',' _

theorem Variables.of_mem_split {list v : String} (hv : v ∈ split list) :
    ',' ∉ v.toList ∧ (∀ ch ∈ v.toList.head?, Text.isWhite ch = false) ∧
      ∀ ch ∈ v.toList.getLast?, Text.isWhite ch = false := by
  obtain ⟨piece, hpiece, rfl⟩ := List.mem_map.mp hv
  rw [String.toList_ofList]
  refine ⟨fun hcomma => ?_, fun ch hch => Text.isWhite_head_trimChars hch,
    fun ch hch => Text.isWhite_last_trimChars hch⟩
  exact Text.not_mem_of_mem_splitOn piece hpiece ((Text.trimChars_infix piece).subset hcomma)

/-! ### Placeholders

A placeholder is made from a text that has a token in it, and keeps that text. From it one
pattern is compiled for each variable. -/

theorem Placeholder.ofString_eq_ok {source : String} {p : Placeholder}
    (h : ofString source = .ok p) : p.source = source := by
  unfold ofString at h
  split at h
  · rw [← Except.ok.inj h]
  · cases h

theorem Filler.forall₂_of_ofNames {p : Placeholder} {names : List String} {f : Filler}
    (h : ofNames p names = .ok f) :
    List.Forall₂ (fun v e => e.1 = v ∧ Regex.compile? (p.patternFor v) = .ok e.2) names
      f.placeholders := by
  rw [ofNames_eq_ok_iff, compileAll_eq_mapM, mapM_eq_ok_iff] at h
  refine h.imp fun v e he => ?_
  cases hcompile : p.compile v with
  | error fault => rw [hcompile] at he; cases he
  | ok re =>
      rw [hcompile] at he
      obtain rfl := Except.ok.inj he
      exact ⟨rfl, compilePattern_eq_ok_iff.mp hcompile⟩

/-! ### Rules

A text is read as JSON first. What happens then depends on the fault, if there is one: a
value of the wrong kind is final, any other fault lets YAML try, and if that fails too, the
fault of JSON is the one told. -/

/-- The rules that a text writes. -/
inductive Modifier.Writes (text : String) : Record → Prop
  | blank (h : Text.isBlank text = true) : Writes text .empty
  | json (hblank : Text.isBlank text = false) {rules : Record} (h : Json.parse text = .ok rules) :
      Writes text rules
  | yaml (hblank : Text.isBlank text = false) {e : Json.Error} (hjson : Json.parse text = .error e)
      (hform : e.isWrongType = false) {rules : Record} (h : Yaml.parse? text = some rules) :
      Writes text rules

/-- What is found in a text that writes no rules: a fault of JSON. If the fault is one of type the
text is not tried as YAML. -/
def Modifier.Misshapen (text : String) (e : Json.Error) : Prop :=
  Text.isBlank text = false ∧ Json.parse text = .error e ∧
    (e.isWrongType = true ∨ Yaml.parse? text = none)

namespace Modifier

/-- The rules that a text writes, none if it is blank. -/
def rulesOf (text : String) : Except ConfigFault Record :=
  if Text.isBlank text then .ok .empty else readRules text

theorem parse_eq (text : String) : parse text = rulesOf text >>= ofRecord := by
  unfold parse rulesOf
  split <;> rfl

theorem rulesOf_of_writes {text : String} {rules : Record} (h : Writes text rules) :
    rulesOf text = .ok rules := by
  unfold rulesOf
  cases h with
  | blank hblank => rw [if_pos hblank]
  | json hblank h => simp only [readRules, hblank, h, Bool.false_eq_true, if_false]
  | yaml hblank hjson hform h =>
      simp only [readRules, hblank, hjson, hform, h, Bool.false_eq_true, if_false]

theorem rulesOf_of_misshapen {text : String} {e : Json.Error} (h : Misshapen text e) :
    rulesOf text = .error (.notRules e) := by
  obtain ⟨hblank, hjson, hform | hyaml⟩ := h
  · simp only [rulesOf, readRules, hblank, hjson, hform, Bool.false_eq_true, if_false, if_true]
  · simp only [rulesOf, readRules, hblank, hjson, hyaml, Bool.false_eq_true, if_false, ite_self]

/-- A text writes rules or is misshapen. -/
theorem writes_or_misshapen (text : String) :
    (∃ rules, Writes text rules) ∨ ∃ e, Misshapen text e := by
  -- the cases of the reader in their order; each ends in one of the two
  cases hblank : Text.isBlank text with
  | true => exact Or.inl ⟨_, .blank hblank⟩
  | false =>
      cases hjson : Json.parse text with
      | ok rules => exact Or.inl ⟨rules, .json hblank hjson⟩
      | error e =>
          cases hform : e.isWrongType with
          | true => exact Or.inr ⟨e, hblank, hjson, Or.inl hform⟩
          | false =>
              cases hyaml : Yaml.parse? text with
              | none => exact Or.inr ⟨e, hblank, hjson, Or.inr hyaml⟩
              | some rules => exact Or.inl ⟨rules, .yaml hblank hjson hform hyaml⟩

theorem rulesOf_eq_ok_iff {text : String} {rules : Record} :
    rulesOf text = .ok rules ↔ Writes text rules := by
  refine ⟨fun h => ?_, rulesOf_of_writes⟩
  rcases writes_or_misshapen text with ⟨rules', hwrites⟩ | ⟨e, hmisshapen⟩
  · rw [rulesOf_of_writes hwrites] at h
    exact Except.ok.inj h ▸ hwrites
  · rw [rulesOf_of_misshapen hmisshapen] at h
    cases h

theorem rulesOf_eq_error_iff {text : String} {fault : ConfigFault} :
    rulesOf text = .error fault ↔ ∃ e, Misshapen text e ∧ fault = .notRules e := by
  constructor
  · intro h
    rcases writes_or_misshapen text with ⟨rules, hwrites⟩ | ⟨e, hmisshapen⟩
    · rw [rulesOf_of_writes hwrites] at h
      cases h
    · rw [rulesOf_of_misshapen hmisshapen] at h
      exact ⟨e, hmisshapen, (Except.error.inj h).symm⟩
  · rintro ⟨e, hmisshapen, rfl⟩
    exact rulesOf_of_misshapen hmisshapen

theorem Writes.unique {text : String} {a b : Record} (ha : Writes text a) (hb : Writes text b) :
    a = b :=
  Except.ok.inj ((rulesOf_eq_ok_iff.mpr ha).symm.trans (rulesOf_eq_ok_iff.mpr hb))

end Modifier
end MailMerge
