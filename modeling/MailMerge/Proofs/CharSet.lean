import MailMerge.CharSet

/-!
# Membership in a union of sets of characters

Joining ranges that touch changes no membership (`any_join`), so that a set has the code points of
the ranges that it is made of (`has_ofRanges`).
-/

namespace MailMerge

variable {n : Nat}

namespace CharRange

theorem has_iff {r : CharRange} : r.has n = true ↔ r.lo ≤ n ∧ n ≤ r.hi := by
  simp only [has, Bool.and_eq_true, decide_eq_true_eq]

theorem has_hull {r s : CharRange} (h : r.touches s) :
    (r.hull s).has n = (r.has n || s.has n) := by
  simp only [touches, Bool.and_eq_true, decide_eq_true_eq] at h
  rw [Bool.eq_iff_iff, Bool.or_eq_true]
  simp only [has_iff, hull]
  omega

end CharRange

namespace CharSet

theorem any_absorb (r : CharRange) (rs : List CharRange) :
    (absorb r rs).any (·.has n) = (r.has n || rs.any (·.has n)) := by
  induction rs generalizing r with
  | nil => rfl
  | cons s rest ih =>
      rw [absorb, List.any_cons]
      split
      -- the ranges touch: one range is looked up in the place of both
      · next ht => rw [ih, CharRange.has_hull ht, Bool.or_assoc]
      · rw [List.any_cons, ih]

theorem any_join (rs : List CharRange) : (join rs).any (·.has n) = rs.any (·.has n) := by
  cases rs with
  | nil => rfl
  | cons r rest => exact any_absorb r rest

/-- A set has the code points of the ranges that it is made of. -/
theorem has_ofRanges (rs : List CharRange) (n : Nat) : (ofRanges rs).has n = rs.any (·.has n) := by
  have hmem {r : CharRange} :
      r ∈ ((rs.filter fun r => r.lo ≤ r.hi).mergeSort fun r s => r.lo ≤ s.lo) ↔
        r ∈ rs ∧ r.lo ≤ r.hi := by
    rw [List.mem_mergeSort, List.mem_filter, decide_eq_true_eq]
  rw [has, ofRanges, any_join, Bool.eq_iff_iff, List.any_eq_true,
    List.any_eq_true]
  constructor
  · rintro ⟨r, hr, hn⟩
    exact ⟨r, (hmem.mp hr).1, hn⟩
  · rintro ⟨r, hr, hn⟩
    -- a range that has a point is not one of the empty ones left out
    have hle := CharRange.has_iff.mp hn
    exact ⟨r, hmem.mpr ⟨hr, Nat.le_trans hle.1 hle.2⟩, hn⟩

theorem contains_unions {ss : List CharSet} {c : Char} :
    (unions ss).contains c = true ↔ ∃ s ∈ ss, s.contains c = true := by
  rw [contains, unions, has_ofRanges, List.any_flatMap, List.any_eq_true]
  rfl

end CharSet
end MailMerge
