import MailMerge.Proofs.Config.Parsed
import MailMerge.Proofs.Text.Cut

/-!
# Names put into replace patterns

A replace pattern is cut at its places for names, and the pattern of a placeholder has the name of
its variable in each of these places (`patternFor_of_cut`). There is one place at least, so that the
placeholders of two variables are never the same (`patternFor_injective`, `compile_injective`).
-/

namespace MailMerge.Placeholder

variable {source v : String} {p : Placeholder} {pieces : List String}

theorem isMark_variableToken : Text.IsMark variableToken :=
  ⟨'v', ['a', 'r', 'i', 'a', 'b', 'l', 'e'], by decide, by decide⟩

/-- A name is put in where the pieces of a replace pattern meet, and nowhere else. -/
theorem patternFor_of_cut (hcut : Text.Cut variableToken p.source pieces) (v : String) :
    p.patternFor v = v.intercalate pieces :=
  hcut.replace_eq isMark_variableToken v

/-- A replace pattern has a place for names. -/
theorem two_le_length_of_cut (hcut : Text.Cut variableToken p.source pieces) :
    2 ≤ pieces.length := by
  rcases hcut.cases with ⟨hnowhere, -⟩ | ⟨q, rest, qs, -, hqs, -, rfl⟩
  · exact absurd (Text.contains_iff.mp p.hasVariable) hnowhere
  · exact Nat.succ_le_succ (List.length_pos_iff.mpr hqs.ne_nil)

theorem patternFor_injective (p : Placeholder) : Function.Injective p.patternFor := by
  obtain ⟨pieces, hcut⟩ := Text.exists_cut isMark_variableToken.ne_empty p.source
  intro v w h
  -- two names that give the same text with the pieces are the same, as there is a place
  -- between two pieces
  rw [patternFor_of_cut hcut, patternFor_of_cut hcut] at h
  exact Text.intercalate_injective (two_le_length_of_cut hcut) h

theorem source_of_compile {re : Regex} (h : p.compile v = .ok re) : re.source = p.patternFor v :=
  Regex.source_of_compile? (compilePattern_eq_ok_iff.mp h)

/-- Not even the faults of two placeholders that do not compile are the same. -/
theorem compile_injective (p : Placeholder) : Function.Injective p.compile := by
  intro v w h
  apply p.patternFor_injective
  cases hv : p.compile v with
  | ok re => exact (source_of_compile hv).symm.trans (source_of_compile (h.symm.trans hv))
  | error fault =>
      -- a fault tells the pattern that it is about
      obtain ⟨e, -, he⟩ := compilePattern_eq_error_iff.mp hv
      obtain ⟨e', -, he'⟩ := compilePattern_eq_error_iff.mp (h.symm.trans hv)
      exact (ConfigFault.badPattern.inj (he.symm.trans he')).1

/-- The variables of a filler can be told by the patterns that stand for them. -/
theorem eq_of_source_eq {names : List String} {f : Filler} (hf : Filler.ofNames p names = .ok f)
    {x y : String × Regex} (hx : x ∈ f.placeholders) (hy : y ∈ f.placeholders)
    (h : x.2.source = y.2.source) : x.1 = y.1 := by
  have hsource : ∀ x ∈ f.placeholders, x.2.source = p.patternFor x.1 := by
    have hcompiled := Filler.forall₂_of_ofNames hf
    generalize f.placeholders = placeholders at hcompiled
    clear hf hx hy
    induction hcompiled with
    | nil => nofun
    | cons hone _ ih =>
        refine List.forall_mem_cons.mpr ⟨?_, ih⟩
        rw [hone.1]
        exact Regex.source_of_compile? hone.2
  apply p.patternFor_injective
  rw [← hsource x hx, ← hsource y hy, h]

/-- **A name is put into every place of a replace pattern at once, and the placeholders of two
variables differ.** The pieces between the places are kept, and what a name brings in is not looked
at again. -/
theorem patternFor_pieces (hp : ofString source = .ok p) :
    (∃ pieces : List String, 2 ≤ pieces.length ∧
      (∀ other, Text.Cut variableToken source other ↔ other = pieces) ∧
      (∀ front back, source = front ++ variableToken ++ back ↔ ∃ ps qs, ps ≠ [] ∧ qs ≠ [] ∧
        pieces = ps ++ qs ∧ front = variableToken.intercalate ps ∧
        back = variableToken.intercalate qs) ∧
      ∀ v, p.patternFor v = v.intercalate pieces) ∧
    p.patternFor variableToken = source ∧
    Function.Injective p.patternFor ∧ Function.Injective p.compile ∧
    (∀ v re, p.compile v = .ok re → re.source = p.patternFor v) ∧
    ∀ names f, Filler.ofNames p names = .ok f → ∀ x ∈ f.placeholders, ∀ y ∈ f.placeholders,
      x.2.source = y.2.source → x.1 = y.1 := by
  obtain rfl := ofString_eq_ok hp
  have hmark := isMark_variableToken
  obtain ⟨pieces, hcut⟩ := Text.exists_cut hmark.ne_empty p.source
  refine ⟨⟨pieces, two_le_length_of_cut hcut, fun other => ?_, fun front back => ?_,
    patternFor_of_cut hcut⟩, ?_, p.patternFor_injective, p.compile_injective,
    fun v re => source_of_compile, fun names f hf x hx y hy => eq_of_source_eq hf hx hy⟩
  · constructor
    · intro hother
      exact hother.unique hmark hcut
    · rintro rfl
      exact hcut
  -- a cut at one place is one of the list of pieces in two
  · rw [hcut.eq_append_iff hmark]
    constructor
    · rintro ⟨ps, qs, hps, hqs, hpieces⟩
      exact ⟨ps, qs, hps.ne_nil, hqs.ne_nil, hpieces, hps.joined.symm, hqs.joined.symm⟩
    · rintro ⟨ps, qs, hps, hqs, rfl, rfl, rfl⟩
      obtain ⟨hfront, hback⟩ := List.forall_mem_append.mp hcut.free
      exact ⟨ps, qs, ⟨hps, hfront, rfl⟩, ⟨hqs, hback, rfl⟩, rfl⟩
  -- with the mark itself in each place the pattern is as it was
  · exact (patternFor_of_cut hcut variableToken).trans hcut.joined

/-- A pattern with two places, and a name that holds the text that marks them. -/
theorem patternFor_pieces_of_two_places :
    ∃ p, ofString "<variable|variable>" = .ok p ∧ p.patternFor "id" = "<id|id>" ∧
      p.patternFor "variable|x" = "<variable|x|variable|x>" ∧
      p.patternFor variableToken = "<variable|variable>" ∧ p.compile "id" ≠ p.compile "id|id" := by
  have hp : ofString "<variable|variable>" = .ok ⟨"<variable|variable>", by decide⟩ := rfl
  obtain ⟨⟨pieces, -, hcut, -, hpattern⟩, htoken, -, hcompile, -⟩ := patternFor_pieces hp
  have hpieces : ["<", "|", ">"] = pieces :=
    (hcut _).mp ⟨by decide, by decide, by decide⟩
  subst hpieces
  refine ⟨_, hp, (hpattern _).trans (by decide), (hpattern _).trans (by decide), htoken, ?_⟩
  intro h
  exact absurd (hcompile h) (by decide)

end MailMerge.Placeholder
