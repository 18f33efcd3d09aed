import MailMerge.Proofs.Regex.Leftmost

/-!
# The order of ways

Two ways from the same start are the same, or they part somewhere and one of them makes the better
choice there (`Way.trichotomy`). The order does not change when something is put before both ways or
behind them, so that it can be told from the pieces that ways are made of (`Way.precedes_append`).
-/

namespace MailMerge.Regex

variable {prog : Program} {text : Array Char} {p q : Pattern} {s : Spot} {x y : Visit}
  {u v v' w w' : List Visit} {n i j k : Nat}

/-! ### Better choices

Visits are compared by choice where two ways part; up to there they are the same. Of two
lists that nobody knows to be ways this is less than the order of their choices, since lists
with the same choices need not be the same. Of ways from one start it is the same
(`Way.precedes_iff`). -/

/-- Whether two ways part and the first makes the better choice there. -/
inductive Precedes : List Visit → List Visit → Prop where
  | here {x y : Visit} {v w : List Visit} : x.choice < y.choice → Precedes (x :: v) (y :: w)
  | there {x : Visit} {v w : List Visit} : Precedes v w → Precedes (x :: v) (x :: w)

@[simp] theorem not_precedes_nil : ¬ Precedes v [] := by
  rintro ⟨⟩

@[simp] theorem not_nil_precedes : ¬ Precedes [] v := by
  rintro ⟨⟩

@[simp] theorem precedes_cons_iff :
    Precedes (x :: v) (y :: w) ↔ x.choice < y.choice ∨ x = y ∧ Precedes v w := by
  constructor
  · rintro (h | h)
    · exact .inl h
    · exact .inr ⟨rfl, h⟩
  · rintro (h | ⟨rfl, h⟩)
    · exact .here h
    · exact .there h

@[simp] theorem precedes_append_left_iff : Precedes (u ++ v) (u ++ w) ↔ Precedes v w := by
  induction u with
  | nil => rfl
  | cons x u ih => simp [ih]

theorem Precedes.append (h : Precedes v w) (v' w' : List Visit) :
    Precedes (v ++ v') (w ++ w') := by
  induction h with
  | here h => exact .here h
  | there _ ih => exact .there ih

@[simp] theorem precedes_map_shift :
    Precedes (v.map (.shift n)) (w.map (.shift n)) ↔ Precedes v w := by
  induction v generalizing w with
  | nil => cases w <;> exact ⟨nofun, nofun⟩
  | cons x v ih =>
      cases w with
      | nil => exact ⟨nofun, nofun⟩
      | cons y w =>
          simp only [List.map_cons, precedes_cons_iff, ih, Visit.choice_shift,
            (Visit.shift_injective n).eq_iff]

theorem Precedes.asymm (h : Precedes v w) : ¬ Precedes w v := by
  induction h with
  -- where they part the choices differ, so they do not part in the same place the other way round
  | here h =>
      rw [precedes_cons_iff]
      rintro (h' | ⟨rfl, -⟩)
      · exact Nat.lt_asymm h h'
      · exact Nat.lt_irrefl _ h
  | there _ ih => simpa using ih

theorem Precedes.choices_lt (h : Precedes v w) : choices v < choices w := by
  induction h with
  | here h => exact List.cons_lt_cons_iff.mpr (.inl h)
  | there _ ih => exact List.cons_lt_cons_iff.mpr (.inr ⟨rfl, ih⟩)

/-! ### Where ways part

A program leaves no other freedom than the choices: from one spot the same choice leads to
the same spot. So two paths go together until a choice differs, and since both end where the
program accepts, none of them is a start of the other. -/

/-- Two paths to where a program accepts are the same or part. -/
theorem Path.trichotomy (hacc : prog[n]? = some .accept) (hv : Path prog text s v (n, j))
    (hw : Path prog text s w (n, k)) :
    v = w ∧ j = k ∨ Precedes v w ∨ Precedes w v := by
  -- nothing goes on from where the program accepts
  have hend {i j : Nat} {w : List Visit} (h : Path prog text (n, i) w (n, j)) : w = [] ∧ i = j := by
    cases h with
    | nil => exact ⟨rfl, rfl⟩
    | cons hi hk =>
        cases hacc.symm.trans hi
        simp [Instr.next] at hk
  generalize ht : (n, j) = t at hv
  induction hv generalizing w with
  | nil =>
      subst ht
      obtain ⟨rfl, rfl⟩ := hend hw
      exact .inl ⟨rfl, rfl⟩
  | @cons s s' t ins c v hi hk hv ih =>
      subst ht
      cases hw with
      | nil => exact .inl ((hend (.cons hi hk hv)).imp id Eq.symm)
      | @cons _ s'' _ ins' c' w hi' hk' hw =>
          -- the same instruction, and then the number of the choice decides
          cases hi.symm.trans hi'
          rcases Nat.lt_trichotomy c c' with hlt | rfl | hgt
          · exact .inr (.inl (.here hlt))
          · cases hk.symm.trans hk'
            rcases ih hw rfl with ⟨rfl, rfl⟩ | h | h
            · exact .inl ⟨rfl, rfl⟩
            · exact .inr (.inl (.there h))
            · exact .inr (.inr (.there h))
          · exact .inr (.inr (.here hgt))

/-- Two ways from the same start are the same or part. -/
theorem Way.trichotomy (hv : Way text p i v j) (hw : Way text p i w k) :
    v = w ∧ j = k ∨ Precedes v w ∨ Precedes w v := by
  have h := Path.trichotomy (((program_compiled p).2 0).mpr rfl)
    (path_program_iff.mpr ⟨v, rfl, hv⟩) (path_program_iff.mpr ⟨w, rfl, hw⟩)
  simpa [(List.map_injective_iff.mpr (Visit.shift_injective 1)).eq_iff] using h

/-- Which of two ways comes first is told by their first pieces or, if these are the same, by what
is behind them. -/
theorem Way.precedes_append (hv : Way text p i v j) (hv' : Way text p i v' k)
    (h : Precedes (v'.map (.shift n) ++ w') (v.map (.shift n) ++ w)) :
    v' = v ∧ k = j ∧ Precedes w' w ∨ Precedes v' v := by
  -- the first pieces are ways from the same start, so they are compared first
  rcases hv'.trichotomy hv with ⟨rfl, rfl⟩ | hlt | hgt
  · exact .inl ⟨rfl, rfl, by simpa using h⟩
  · exact .inr hlt
  · exact absurd h ((precedes_map_shift.mpr hgt).append w w').asymm

theorem Way.precedes_iff (hv : Way text p i v j) (hw : Way text p i w k) :
    Precedes v w ↔ choices v < choices w := by
  refine ⟨Precedes.choices_lt, fun h => ?_⟩
  rcases hv.trichotomy hw with ⟨rfl, -⟩ | hlt | hgt
  · exact absurd h (List.lt_irrefl _)
  · exact hlt
  · exact absurd h (List.lt_asymm hgt.choices_lt)

namespace Pattern

/-- The first match is the one of a direct way that no other direct way comes before. -/
theorem firstMatch_iff : p.FirstMatch text i j ↔ i ≤ text.size ∧ ∃ w, Way text p i w j ∧
    IsDirect w ∧ ∀ w' k, Way text p i w' k → IsDirect w' → ¬ Precedes w' w := by
  refine and_congr_right fun _ => exists_congr fun w => and_congr_right fun hw =>
    and_congr_right fun _ => forall₂_congr fun w' k => ?_
  refine forall_congr' fun hw' => forall_congr' fun _ => ?_
  rw [← hw.precedes_iff hw']
  constructor
  -- the earlier way would come both before and behind
  · rintro (rfl | h) h'
    · exact h'.asymm h'
    · exact h.asymm h'
  · intro h
    rcases hw'.trichotomy hw with ⟨rfl, -⟩ | hlt | hgt
    · exact .inl rfl
    · exact absurd hlt h
    · exact .inr hgt

/-- Where a pattern matches, one of the matches from there is the first. -/
theorem Matches.exists_firstMatch (h : p.Matches text i j) : ∃ k, p.FirstMatch text i k := by
  obtain ⟨⟨start, stop⟩, hm⟩ := h.exists_leftmostFirst (Nat.le_refl i)
  -- the pattern matches at `i`, so its leftmost match is there
  obtain rfl : i = start := by
    refine Nat.le_antisymm hm.start_le (Nat.le_of_not_lt fun hlt => ?_)
    exact hm.not_before i (Nat.le_refl i) hlt j h
  exact ⟨stop, hm.first⟩

end Pattern

end MailMerge.Regex
