import Mathlib.Data.List.TakeDrop
import Mathlib.Data.List.TakeWhile
import MailMerge.Proofs.Json.Grammar

/-!
# Reading the numbers of JSON

The reader of numbers takes exactly the numbers of the grammar, each to its end. The only other
answer it gives to a number is that it is out of range (`readNumber_of_magnitude`).
-/

namespace MailMerge.Json

variable {isNegative : Bool} {significand : Nat} {exponent : Int} {cs rest : List Char}

/-! ### Digits

The reader takes digits as long as there are some, and the grammar wants a run to its end:
both mean the same run. -/

theorem spanDigits_eq (cs : List Char) :
    spanDigits cs = (cs.takeWhile Char.isDigit, cs.dropWhile Char.isDigit) :=
  List.span_eq_takeWhile_dropWhile Char.isDigit cs

theorem spanDigits_of_head? (h : ∀ c ∈ rest.head?, c.isDigit = false) :
    spanDigits rest = ([], rest) := by
  rw [spanDigits_eq]
  cases rest with
  | nil => rfl
  | cons c rest => simp [h c rfl]

/-- The digits at the start of a text are a run to its end. -/
theorem digits_iff {ds : List Char} (hne : ds ≠ []) :
    spanDigits cs = (ds, rest) ↔
      (∀ d ∈ ds, d.isDigit = true) ∧ cs = ds ++ rest ∧ ∀ c ∈ rest.head?, c.isDigit = false := by
  constructor
  · intro h
    rw [spanDigits_eq, Prod.mk.injEq] at h
    obtain ⟨rfl, rfl⟩ := h
    refine ⟨fun d hd => List.mem_takeWhile_imp hd, List.takeWhile_append_dropWhile.symm, ?_⟩
    intro c hc
    have hnot := List.head?_dropWhile_not Char.isDigit cs
    rw [Option.mem_def.mp hc] at hnot
    simpa using hnot
  · rintro ⟨hds, rfl, hrest⟩
    have hspan := spanDigits_of_head? hrest
    rw [spanDigits_eq, Prod.mk.injEq] at hspan
    rw [spanDigits_eq, List.takeWhile_append_of_pos hds, List.dropWhile_append_of_pos hds, hspan.1,
      hspan.2, List.append_nil]

theorem digits_of_span {ds : List Char} (h : spanDigits cs = (ds, rest)) (hne : ds ≠ []) :
    Digits cs rest := ⟨ds, hne, (digits_iff hne).mp h⟩

theorem Digits.span (h : Digits cs rest) : ∃ ds, ds ≠ [] ∧ spanDigits cs = (ds, rest) := by
  obtain ⟨ds, hne, hds⟩ := h
  exact ⟨ds, hne, (digits_iff hne).mpr hds⟩

/-! ### Parts of numbers

Behind each part of a number the reader looks for the next one, so what it answers is shown
from the last part to the first. Whatever the value, there are two answers: a number, with
what is left, or that it is out of range. -/

/-- What the reader answers to a number: the number, or that it is out of range. -/
def Counted (r : Except Stop (Number × List Char)) (rest : List Char) : Prop :=
  (∃ x, r = .ok (x, rest)) ∨ ∃ left, r = stop .numberOutOfRange left

theorem finishNumber_counted :
    Counted (finishNumber isNegative significand exponent rest) rest := by
  unfold finishNumber
  split
  · exact Or.inl ⟨_, rfl⟩
  · exact Or.inr ⟨_, rfl⟩

theorem Digits.exists_cons (h : Digits cs rest) : ∃ d ds, cs = d :: ds ∧ d.isDigit = true := by
  obtain ⟨ds, hne, hds, rfl, -⟩ := h
  obtain ⟨d, ds', rfl⟩ := List.exists_cons_of_ne_nil hne
  exact ⟨d, ds' ++ rest, rfl, hds d List.mem_cons_self⟩

/-- A digit is neither a sign nor any other mark in a number. -/
theorem ne_of_isDigit {c d : Char} (hd : d.isDigit = true) (hc : c.isDigit = false) : d ≠ c := by
  rintro rfl
  rw [hc] at hd
  cases hd

/-- The exponent behind its letter, with the sign read. -/
theorem readExponent_counted {ds : List Char} (hsign : Sign cs ds) (hds : Digits ds rest) :
    Counted (readExponent isNegative significand exponent cs) rest := by
  obtain ⟨run, -, hspan⟩ := hds.span
  obtain ⟨d, ds', rfl, hd⟩ := hds.exists_cons
  unfold readExponent
  split
  next up es heq =>
    -- behind the sign, if there is one, the digits begin
    have hes : es = d :: ds' := by
      cases hsign with
      | plus => exact (Prod.mk.inj heq).2.symm
      | minus => exact (Prod.mk.inj heq).2.symm
      | none =>
          split at heq
          · next h => exact absurd (List.cons.inj h).1 (ne_of_isDigit hd (by decide))
          · next h => exact absurd (List.cons.inj h).1 (ne_of_isDigit hd (by decide))
          · exact (Prod.mk.inj heq).2.symm
    subst hes
    dsimp only
    rw [hd, hspan, if_neg (by decide)]
    dsimp only
    split
    · exact finishNumber_counted
    · split
      · exact Or.inr ⟨_, rfl⟩
      · exact Or.inl ⟨_, rfl⟩

theorem readTail_counted (h : Exponent cs rest) :
    Counted (readTail isNegative significand exponent cs) rest := by
  cases h with
  | none hrest =>
      unfold readTail
      split
      · exact absurd rfl (hrest _ rfl).1
      · exact absurd rfl (hrest _ rfl).2
      · exact finishNumber_counted
  | digits he hsign hds =>
      rcases he with rfl | rfl <;> exact readExponent_counted hsign hds

theorem readFraction_counted {cs' : List Char} (hds : Digits cs cs') (h : Exponent cs' rest) :
    Counted (readFraction isNegative significand exponent cs) rest := by
  obtain ⟨run, hne, hspan⟩ := hds.span
  unfold readFraction
  rw [hspan]
  dsimp only
  rw [if_neg (by simpa using hne)]
  exact readTail_counted h

/-- A number behind its whole part. -/
theorem readNumber_counted {whole a b : List Char} (hspan : spanDigits cs = (whole, a))
    (hne : whole ≠ []) (hzero : ∀ d ds, whole ≠ '0' :: d :: ds) (hfraction : Fraction a b)
    (hexponent : Exponent b rest) : Counted (readNumber isNegative cs) rest := by
  unfold readNumber
  rw [hspan]
  dsimp only
  -- the faults of the whole part are excluded: it is not empty, and no needless zero
  split
  · exact absurd rfl hne
  · exact absurd rfl (hzero _ _)
  · cases hfraction with
    | digits hds => exact readFraction_counted hds hexponent
    | none hpoint =>
        cases hexponent with
        | digits he hsign hds =>
            rcases he with rfl | rfl <;> exact readExponent_counted hsign hds
        -- no part follows: the reader finds neither a point nor the letter of an exponent
        | none hrest =>
            split
            · exact absurd rfl (hpoint _ rfl)
            · exact absurd rfl (hrest _ rfl).1
            · exact absurd rfl (hrest _ rfl).2
            · split
              · exact finishNumber_counted
              · split
                · exact Or.inl ⟨_, rfl⟩
                · split <;> exact Or.inl ⟨_, rfl⟩

/-- A number of the grammar is read to its end, or is out of range. -/
theorem readNumber_of_magnitude (h : Magnitude cs rest) :
    Counted (readNumber isNegative cs) rest := by
  obtain ⟨a, b, hwhole, hfraction, hexponent⟩ := h
  cases hwhole with
  | zero ha =>
      have hspan : spanDigits ('0' :: a) = (['0'], a) :=
        (digits_iff (List.cons_ne_nil _ _)).mpr ⟨List.forall_mem_singleton.mpr rfl, rfl, ha⟩
      exact readNumber_counted hspan (by decide) (by simp) hfraction hexponent
  | digits hd hds =>
      obtain ⟨whole, hne, hspan⟩ := hds.span
      refine readNumber_counted hspan hne ?_ hfraction hexponent
      -- a whole part that begins with a zero is that zero alone
      rintro d ds rfl
      obtain ⟨-, hcs, -⟩ := (digits_iff hne).mp hspan
      exact hd (List.cons.inj hcs).1

/-! ### What is read is a number

The other way round, each part that the reader has gone through is one of the grammar, and
where it found no further part there is none. -/

theorem finishNumber_eq_ok {x : Number} {cs' : List Char}
    (h : finishNumber isNegative significand exponent cs = .ok (x, cs')) : cs' = cs := by
  unfold finishNumber at h
  split at h
  · exact (Prod.mk.inj (Except.ok.inj h)).2.symm
  · cases h

theorem readExponent_eq_ok {x : Number}
    (h : readExponent isNegative significand exponent cs = .ok (x, rest)) :
    ∃ ds, Sign cs ds ∧ Digits ds rest := by
  unfold readExponent at h
  split at h
  next up ds hup =>
    have hsign : Sign cs ds := by
      split at hup
      · obtain ⟨-, rfl⟩ := Prod.mk.inj hup
        exact .plus
      · obtain ⟨-, rfl⟩ := Prod.mk.inj hup
        exact .minus
      · obtain ⟨-, rfl⟩ := Prod.mk.inj hup
        exact .none
    refine ⟨ds, hsign, ?_⟩
    split at h
    · cases h
    · next d ds =>
      split at h
      · cases h
      -- there is a digit, so the run is not empty
      · next hd =>
        rcases hspan : spanDigits (d :: ds) with ⟨run, behind⟩
        have hdigit : d.isDigit = true := by simpa using hd
        have hne : run ≠ [] := by
          rintro rfl
          simp [spanDigits_eq, hdigit] at hspan
        rw [hspan] at h
        dsimp only at h
        have hbehind : behind = rest := by
          split at h
          · exact (finishNumber_eq_ok h).symm
          · split at h
            · cases h
            · exact (Prod.mk.inj (Except.ok.inj h)).2
        exact hbehind ▸ digits_of_span hspan hne

theorem readTail_eq_ok {x : Number}
    (h : readTail isNegative significand exponent cs = .ok (x, rest)) : Exponent cs rest := by
  unfold readTail at h
  split at h
  · obtain ⟨ds, hsign, hds⟩ := readExponent_eq_ok h
    exact .digits (Or.inl rfl) hsign hds
  · obtain ⟨ds, hsign, hds⟩ := readExponent_eq_ok h
    exact .digits (Or.inr rfl) hsign hds
  · next hlower hupper =>
    obtain rfl := finishNumber_eq_ok h
    refine .none fun c hc => ?_
    obtain ⟨cs', rfl⟩ := List.head?_eq_some_iff.mp hc
    exact ⟨fun heq => hlower cs' (heq ▸ rfl), fun heq => hupper cs' (heq ▸ rfl)⟩

theorem readFraction_eq_ok {x : Number}
    (h : readFraction isNegative significand exponent cs = .ok (x, rest)) :
    ∃ cs', Digits cs cs' ∧ Exponent cs' rest := by
  unfold readFraction at h
  rcases hspan : spanDigits cs with ⟨run, behind⟩
  rw [hspan] at h
  dsimp only at h
  split at h
  · split at h <;> cases h
  · next hrun => exact ⟨behind, digits_of_span hspan (by simpa using hrun), readTail_eq_ok h⟩

theorem whole_of_span {whole : List Char} (hspan : spanDigits cs = (whole, rest)) (hne : whole ≠ [])
    (hzero : ∀ d ds, whole ≠ '0' :: d :: ds) : Whole cs rest := by
  obtain ⟨hds, rfl, hrest⟩ := (digits_iff hne).mp hspan
  obtain ⟨d, ds, rfl⟩ := List.exists_cons_of_ne_nil hne
  by_cases hd : d = '0'
  · subst hd
    cases ds with
    | nil => exact .zero hrest
    | cons d' ds => exact absurd rfl (hzero d' ds)
  · exact .digits hd (digits_of_span hspan hne)

/-- What is read as a number is one, to its end. -/
theorem magnitude_of_readNumber {x : Number} (h : readNumber isNegative cs = .ok (x, rest)) :
    Magnitude cs rest := by
  unfold readNumber at h
  rcases hspan : spanDigits cs with ⟨whole, a⟩
  rw [hspan] at h
  dsimp only at h
  split at h
  · split at h <;> cases h
  · cases h
  -- what the reader saw behind the whole part says which of the other parts there are
  · next hne hzero =>
    refine ⟨a, ?_⟩
    suffices hbehind : ∃ b, Fraction a b ∧ Exponent b rest by
      obtain ⟨b, hfraction, hexponent⟩ := hbehind
      exact ⟨b, whole_of_span hspan hne hzero, hfraction, hexponent⟩
    split at h
    · obtain ⟨b, hds, hexponent⟩ := readFraction_eq_ok h
      exact ⟨b, .digits hds, hexponent⟩
    · obtain ⟨ds, hsign, hds⟩ := readExponent_eq_ok h
      exact ⟨_, .none (by simp), .digits (Or.inl rfl) hsign hds⟩
    · obtain ⟨ds, hsign, hds⟩ := readExponent_eq_ok h
      exact ⟨_, .none (by simp), .digits (Or.inr rfl) hsign hds⟩
    · next hpoint hlower hupper =>
      have hrest : a = rest := by
        split at h
        · exact (finishNumber_eq_ok h).symm
        · split at h
          · exact (Prod.mk.inj (Except.ok.inj h)).2
          · split at h <;> exact (Prod.mk.inj (Except.ok.inj h)).2
      subst hrest
      refine ⟨a, .none fun c hc => ?_, .none fun c hc => ?_⟩
      · obtain ⟨cs', rfl⟩ := List.head?_eq_some_iff.mp hc
        exact fun heq => hpoint cs' (heq ▸ rfl)
      · obtain ⟨cs', rfl⟩ := List.head?_eq_some_iff.mp hc
        exact ⟨fun heq => hlower cs' (heq ▸ rfl), fun heq => hupper cs' (heq ▸ rfl)⟩

end MailMerge.Json
