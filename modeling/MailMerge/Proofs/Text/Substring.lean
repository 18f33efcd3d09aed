import MailMerge.Text.Substring

/-!
# What replacing literal text does

Replacing passes over text in which the old text begins nowhere (`replaceChars_append`), and puts
the new text in place of the old one where it stands (`replaceChars_old_append`). With these two
rules the pass over a text is taken occurrence by occurrence.
-/

namespace MailMerge.Text

variable {old new : List Char}

/-! ### Finding

The search asks at each character whether the text begins there. So it is told by the number
of characters in front, and by a part of the text where these do not matter. -/

/-- A text occurs in another one if it begins there behind some number of characters. -/
theorem occursIn_iff {text : List Char} : occursIn old text = true ↔ ∃ n, old <+: text.drop n := by
  induction text with
  | nil => simp [occursIn]
  | cons c rest ih =>
      rw [occursIn, Bool.or_eq_true, List.isPrefixOf_iff_prefix, ih]
      constructor
      · rintro (hhere | ⟨n, hlater⟩)
        · exact ⟨0, hhere⟩
        · exact ⟨n + 1, hlater⟩
      · rintro ⟨n | n, h⟩
        · exact Or.inl h
        · exact Or.inr ⟨n, h⟩

theorem contains_iff {text old : String} :
    contains text old = true ↔ old.toList <:+: text.toList := by
  rw [contains, occursIn_iff, List.infix_iff_prefix_suffix]
  constructor
  · rintro ⟨n, h⟩
    exact ⟨_, h, List.drop_suffix n _⟩
  · rintro ⟨back, h, hback⟩
    rw [List.suffix_iff_eq_drop.mp hback] at h
    exact ⟨_, h⟩

/-! ### Replacing

One pass goes through the text from left to right. Either the old text begins and is
replaced, and the pass goes on behind it, or one character is passed. -/

@[simp] theorem replaceChars_nil (old new : List Char) : replaceChars old new [] = [] := by
  rw [replaceChars]

theorem replaceChars_cons {c : Char} {rest : List Char} (h : ¬ old <+: c :: rest) :
    replaceChars old new (c :: rest) = c :: replaceChars old new rest := by
  rw [replaceChars, if_neg]
  rintro ⟨-, hoccurs⟩
  exact h (List.isPrefixOf_iff_prefix.mp hoccurs)

/-- The old text is replaced where it stands, and what follows is looked at afresh. -/
theorem replaceChars_old_append (hold : old ≠ []) (rest : List Char) :
    replaceChars old new (old ++ rest) = new ++ replaceChars old new rest := by
  cases old with
  | nil => exact absurd rfl hold
  | cons c cs =>
      have hoccurs : (c :: cs).isPrefixOf (c :: (cs ++ rest)) = true :=
        List.isPrefixOf_iff_prefix.mpr (List.prefix_append (c :: cs) rest)
      rw [List.cons_append, replaceChars, if_pos ⟨List.cons_ne_nil c cs, hoccurs⟩]
      simp

/-- Text in which the old text does not begin stays as it is. -/
theorem replaceChars_append {s rest : List Char}
    (h : ∀ n < s.length, ¬ old <+: (s ++ rest).drop n) :
    replaceChars old new (s ++ rest) = s ++ replaceChars old new rest := by
  induction s with
  | nil => rfl
  | cons c s ih =>
      have hhere : ¬ old <+: c :: (s ++ rest) := h 0 (by simp)
      rw [List.cons_append, replaceChars_cons hhere, ih, List.cons_append]
      intro n hn
      exact h (n + 1) (by simpa using hn)

/-- Text without the first character of the old text stays as it is. -/
theorem replaceChars_append_of_not_mem {c : Char} {cs s : List Char} (h : c ∉ s)
    (rest : List Char) :
    replaceChars (c :: cs) new (s ++ rest) = s ++ replaceChars (c :: cs) new rest := by
  induction s with
  | nil => rfl
  | cons d s ih =>
      rw [List.mem_cons, not_or] at h
      have hhere : ¬ c :: cs <+: d :: (s ++ rest) := fun hp => h.1 (List.cons_prefix_cons.mp hp).1
      rw [List.cons_append, replaceChars_cons hhere, ih h.2, List.cons_append]

/-- A text in which the old text occurs nowhere stays as it is. -/
theorem replaceChars_eq_self {text : List Char} (h : ∀ n < text.length, ¬ old <+: text.drop n) :
    replaceChars old new text = text := by
  have hall := @replaceChars_append old new text [] (by simpa using h)
  simpa using hall

end MailMerge.Text
