import MailMerge.Filler
import MailMerge.Options
import MailMerge.Proofs.Modifier
import MailMerge.Proofs.Pieces
import MailMerge.Proofs.Regex.Literal

/-!
# Filled templates

A filler is made from any order of its variables, or from none (`exists_ofNames_iff`). With plain
names and the replace pattern for names behind an `@`, filling a template is resolving a file name
(`fill_eq_resolve`). So, where no placeholder can be taken for another, a template is filled with all
values at once, and the order of the variables does not matter (`fill_write`).
-/

namespace MailMerge.Filler

variable {p : Placeholder} {names : List String} {f : Filler}

/-! ### Making a filler

The placeholders are compiled one by one, in the order of the variables. An error is that of
the first one that does not compile, but whether there is one does not depend on the order. -/

theorem compileAll_eq_mapM (p : Placeholder) (names : List String) :
    compileAll p names = names.mapM fun v => return (v, ← p.compile v) := by
  induction names with
  | nil => rfl
  | cons v rest ih =>
      rw [compileAll, List.mapM_cons, ih]
      cases p.compile v <;> rfl

theorem compileAll_cons_eq_ok {v : String} {placeholders : List (String × Regex)}
    (h : compileAll p (v :: names) = .ok placeholders) :
    ∃ re rest, p.compile v = .ok re ∧ compileAll p names = .ok rest ∧
      placeholders = (v, re) :: rest := by
  rw [compileAll] at h
  cases hre : p.compile v with
  | error e => rw [hre] at h; cases h
  | ok re =>
      cases hrest : compileAll p names with
      | error e => rw [hre, hrest] at h; cases h
      | ok rest =>
          rw [hre, hrest] at h
          exact ⟨re, rest, rfl, rfl, (Except.ok.inj h).symm⟩

theorem exists_compileAll_iff :
    (∃ placeholders, compileAll p names = .ok placeholders) ↔
      ∀ v ∈ names, ∃ re, p.compile v = .ok re := by
  induction names with
  | nil => simp [compileAll]
  | cons v rest ih =>
      rw [List.forall_mem_cons, ← ih]
      constructor
      · rintro ⟨placeholders, h⟩
        obtain ⟨re, back, hre, hback, -⟩ := compileAll_cons_eq_ok h
        exact ⟨⟨re, hre⟩, back, hback⟩
      · rintro ⟨⟨re, hre⟩, back, hback⟩
        exact ⟨(v, re) :: back, by rw [compileAll, hre, hback]; rfl⟩

theorem ofNames_eq_ok_iff :
    ofNames p names = .ok f ↔ compileAll p names = .ok f.placeholders := by
  obtain ⟨placeholders⟩ := f
  unfold ofNames
  cases compileAll p names <;> simp [Except.map]

/-- A filler is made if every placeholder compiles, in whatever order they come. -/
theorem exists_ofNames_iff :
    (∃ f, ofNames p names = .ok f) ↔ ∀ v ∈ names, ∃ re, p.compile v = .ok re := by
  rw [← exists_compileAll_iff]
  constructor
  · rintro ⟨f, hf⟩
    exact ⟨f.placeholders, ofNames_eq_ok_iff.mp hf⟩
  · rintro ⟨placeholders, h⟩
    exact ⟨⟨placeholders⟩, ofNames_eq_ok_iff.mpr h⟩

/-! ### Filling as replacing text

Filling goes through the placeholders, and a placeholder that stands for one text only
replaces that text. With the default pattern this is what the pattern for file names does
with a name, so both are the same fold. -/

/-- Filling replaces text by text where every placeholder does. -/
theorem fill_eq_foldl {literal : String → String} (hf : ofNames p names = .ok f)
    (hliteral : ∀ v ∈ names, ∀ re, p.compile v = .ok re →
      ∀ text value, re.replaceAll text value = Text.replace text (literal v) value)
    (template : String) (r : Record) :
    f.fill template r = names.foldl (fun text v => match r.get? v with
      | some value => Text.replace text (literal v) value
      | none => text) template := by
  have hall := ofNames_eq_ok_iff.mp hf
  unfold fill
  generalize f.placeholders = placeholders at hall
  clear hf
  induction names generalizing placeholders template with
  | nil =>
      obtain rfl := Except.ok.inj hall
      rfl
  | cons v rest ih =>
      obtain ⟨re, back, hre, hback, rfl⟩ := compileAll_cons_eq_ok hall
      obtain ⟨hv, hrest⟩ := List.forall_mem_cons.mp hliteral
      have hone : fillOne r template (v, re) = match r.get? v with
          | some value => Text.replace template (literal v) value
          -- only a variable with a value is replaced, in both
          | none => template := by
        unfold fillOne
        split
        · next value hvalue => rw [hvalue, hv re hre]
        · next hvalue => rw [hvalue]
      rw [List.foldl_cons, List.foldl_cons, hone]
      exact ih hrest _ back hback

/-- The default replace pattern is the name of the variable behind an `@`. -/
theorem patternFor_default (hp : Placeholder.ofString Options.defaultPlaceholder = .ok p)
    (v : String) : p.patternFor v = FileName.reference v := by
  have hsource : p.source = Options.defaultPlaceholder := by
    unfold Placeholder.ofString at hp
    split at hp
    · rw [← Except.ok.inj hp]
    · cases hp
  have hreplace : Text.replaceChars variableToken.toList v.toList ('@' :: variableToken.toList) =
      '@' :: v.toList := by
    -- the token stands behind the `@` and is replaced by the name there
    have htoken := @Text.replaceChars_old_append variableToken.toList v.toList (by decide) []
    rw [Text.replaceChars_cons (by decide)]
    simpa using htoken
  unfold Placeholder.patternFor Text.replace
  rw [hsource]
  rw [← @String.ofList_toList (FileName.reference v), FileName.toList_reference]
  exact congrArg String.ofList hreplace

/-- Filling a template is resolving a file name if all names are plain text. -/
theorem fill_eq_resolve (hp : Placeholder.ofString Options.defaultPlaceholder = .ok p)
    (hf : ofNames p names = .ok f) (hplain : ∀ v ∈ names, ∀ c ∈ v.toList, Regex.isPlain c = true)
    (template : String) (r : Record) :
    f.fill template r = FileName.resolve template names r := by
  refine fill_eq_foldl hf (fun v hv re hre text value => ?_) template r
  unfold Placeholder.compile at hre
  rw [patternFor_default hp, compilePattern_eq_ok_iff] at hre
  have hat : ∀ c ∈ (FileName.reference v).toList, Regex.isPlain c = true := by
    rw [FileName.toList_reference, List.forall_mem_cons]
    exact ⟨by decide, hplain v hv⟩
  exact Regex.replaceAll_of_plain hat (by simp [FileName.reference]) hre text value

/-! ### All placeholders at once

Filled with all values at once means that no value is looked at again and no placeholder is
taken for a part of another. What a template is made of is given by its pieces, so that all
references have their places before anything is filled in. -/

/-- With the default replace pattern a template is filled with all values at once, and any order of
the variables fills it alike, if names are plain text, no name starts with another one, and neither
names nor values have an `@`. -/
theorem fill_write {r : Record} {pieces : List Piece}
    (hp : Placeholder.ofString Options.defaultPlaceholder = .ok p) (hf : ofNames p names = .ok f)
    (hnames : ∀ v ∈ names, '@' ∉ v.toList ∧ ∀ c ∈ v.toList, Regex.isPlain c = true)
    (hapart : ∀ v ∈ names, ∀ w ∈ names, v.toList <+: w.toList → v = w)
    (hvalues : ∀ v ∈ names, ∃ value, r.get? v = some value ∧ '@' ∉ value.toList)
    (hpieces : ∀ x ∈ pieces, x.Refers names) :
    f.fill (Piece.write pieces) r = Piece.fill r pieces ∧
      '@' ∉ (f.fill (Piece.write pieces) r).toList ∧
      ∀ names' : List String, names'.Perm names → ∃ f', ofNames p names' = .ok f' ∧
        f'.fill (Piece.write pieces) r = f.fill (Piece.write pieces) r := by
  have hat : ∀ v ∈ names, '@' ∉ v.toList := fun v hv => (hnames v hv).1
  have hplain : ∀ v ∈ names, ∀ c ∈ v.toList, Regex.isPlain c = true := fun v hv => (hnames v hv).2
  have hfill : f.fill (Piece.write pieces) r = Piece.fill r pieces :=
    (fill_eq_resolve hp hf hplain _ r).trans (Piece.resolve_write hat hapart hvalues hpieces)
  refine ⟨hfill, ?_, fun names' hperm => ?_⟩
  · rw [hfill]
    exact Piece.not_mem_fill hvalues hpieces
  -- the same variables, so the same placeholders compile
  · have hmem : ∀ {v}, v ∈ names' → v ∈ names := fun hv => hperm.mem_iff.mp hv
    obtain ⟨f', hf'⟩ := exists_ofNames_iff.mpr fun v hv =>
      exists_ofNames_iff.mp ⟨f, hf⟩ v (hmem hv)
    refine ⟨f', hf', ?_⟩
    have hlisted : ∀ x ∈ pieces, x.Refers names' := fun x hx =>
      (hpieces x hx).mono fun v hv => hperm.mem_iff.mpr hv
    rw [hfill, fill_eq_resolve hp hf' (fun v hv => hplain v (hmem hv)),
      Piece.resolve_write (fun v hv => hat v (hmem hv))
        (fun v hv w hw => hapart v (hmem hv) w (hmem hw)) (fun v hv => hvalues v (hmem hv)) hlisted]

/-- Two variables side by side are filled alike in both orders. -/
theorem fill_write_of_two_orders :
    let r := Record.ofList [("name", "Ann"), ("id", "$1")]
    ∃ p f f', Placeholder.ofString Options.defaultPlaceholder = .ok p ∧
      ofNames p ["name", "id"] = .ok f ∧ ofNames p ["id", "name"] = .ok f' ∧
      f.fill "Dear @name@id." r = "Dear Ann$1." ∧ f'.fill "Dear @name@id." r = "Dear Ann$1." := by
  intro r
  let p : Placeholder := ⟨Options.defaultPlaceholder, by decide⟩
  have hp : Placeholder.ofString Options.defaultPlaceholder = .ok p := rfl
  have hmade : (ofNames p ["name", "id"]).isOk = true := by decide +kernel
  cases hf : ofNames p ["name", "id"] with
  | error e =>
      rw [hf] at hmade
      cases hmade
  | ok f =>
      -- the pieces of the template, and what they are filled to
      let pieces : List Piece :=
        [.text "Dear ", .reference "name", .reference "id", .text "."]
      have hwrite : Piece.write pieces = "Dear @name@id." := by decide
      have hfilled : Piece.fill r pieces = "Dear Ann$1." := by decide
      obtain ⟨hfill, -, horder⟩ := @fill_write p ["name", "id"] f r pieces hp hf
        (by simp only [← List.all_eq_true]; decide) (by decide)
        (by
          rintro v (_ | ⟨_, _ | ⟨_, ⟨⟩⟩⟩)
          · exact ⟨"Ann", by decide, by decide⟩
          · exact ⟨"$1", by decide, by decide⟩)
        (by decide)
      obtain ⟨f', hf', hsame⟩ := horder ["id", "name"] (List.Perm.swap _ _ _)
      rw [hwrite] at hfill hsame
      exact ⟨p, f, f', hp, hf, hf', hfill.trans hfilled, hsame.trans (hfill.trans hfilled)⟩

end MailMerge.Filler
