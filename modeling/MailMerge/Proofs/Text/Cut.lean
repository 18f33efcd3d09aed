import MailMerge.Proofs.Text.Substring

/-!
# Texts cut at a mark

A text is cut at the places of a mark into the pieces between them. If the first character of the
mark stands nowhere else in it (`IsMark`), two places of the mark do not overlap. Then there is one
way to cut a text (`exists_cut`, `Cut.unique`), every place of the mark is a joint between two
pieces (`Cut.eq_append_iff`), and replacing the mark puts the new text into all joints at once
(`Cut.replace_eq`). Different texts in the joints make different texts (`intercalate_injective`).
-/

namespace MailMerge.Text

/-- Whether the first character of a text stands nowhere else in it. -/
def IsMark (mark : String) : Prop := ∃ c cs, mark.toList = c :: cs ∧ c ∉ cs

/-- The pieces that a text is cut into at a mark: none holds the mark, and joined by it they are the
text. -/
structure Cut (mark text : String) (pieces : List String) : Prop where
  ne_nil : pieces ≠ []
  free : ∀ p ∈ pieces, ¬ mark.toList <:+: p.toList
  joined : mark.intercalate pieces = text

/-! ### Places of a mark

A place of the mark may begin inside a text that does not hold it and end behind it, which
is what makes cutting depend on the mark. Before another place of the mark this cannot
happen: the second one would begin inside the first one. -/

section Places

variable {c : Char} {cs new s s' rest rest' : List Char}

/-- A mark that begins in front of one of its places ends there too. -/
theorem not_prefix_append_mark (hc : c ∉ cs) (hne : s ≠ []) (hs : ¬ c :: cs <+: s) :
    ¬ c :: cs <+: s ++ (c :: cs ++ rest) := by
  intro h
  -- the mark lies in `s`, or `s` is a proper start of it
  rcases List.prefix_or_prefix_of_prefix h (List.prefix_append s _) with hmark | ⟨back, hback⟩
  · exact hs hmark
  · -- what of the mark lies behind `s` starts with the mark's first character
    have hprefix : back <+: c :: cs ++ rest := by
      rw [← List.prefix_append_right_inj s, hback]
      exact h
    obtain ⟨d, s, rfl⟩ := List.exists_cons_of_ne_nil hne
    cases back with
    | nil =>
        rw [List.append_nil] at hback
        exact hs ⟨[], by rw [List.append_nil, hback]⟩
    | cons e back =>
        obtain rfl : e = c := (List.cons_prefix_cons.mp hprefix).1
        apply hc
        rw [← (List.cons.inj hback).2]
        exact List.mem_append_right s List.mem_cons_self

/-- Up to the first place of the mark nothing is replaced. -/
theorem replaceChars_append_mark (hc : c ∉ cs) (hs : ¬ c :: cs <:+: s) :
    replaceChars (c :: cs) new (s ++ (c :: cs ++ rest)) =
      s ++ (new ++ replaceChars (c :: cs) new rest) := by
  rw [replaceChars_append, replaceChars_old_append (List.cons_ne_nil c cs)]
  -- at each place inside `s` the mark would begin in front of its own place
  intro n hn
  rw [List.drop_append_of_le_length (Nat.le_of_lt hn)]
  apply not_prefix_append_mark hc
  · rw [Ne, List.drop_eq_nil_iff]
    exact Nat.not_le.mpr hn
  · intro h
    exact hs (h.isInfix.trans (List.drop_suffix n s).isInfix)

theorem eq_nil_of_append_mark (hc : c ∉ cs) (hs : ¬ c :: cs <:+: s ++ s')
    (h : c :: cs ++ rest = s' ++ (c :: cs ++ rest')) : s' = [] := by
  have hfree : ¬ c :: cs <+: s' := fun hp => hs (hp.isInfix.trans (List.suffix_append s s').isInfix)
  cases s' with
  | nil => rfl
  | cons d s' =>
      have hplace : c :: cs <+: d :: s' ++ (c :: cs ++ rest') := by
        rw [← h]
        exact List.prefix_append _ _
      exact absurd hplace (not_prefix_append_mark hc (List.cons_ne_nil d s') hfree)

/-- The first place of the mark is told by the text. -/
theorem append_mark_inj (hc : c ∉ cs) (hs : ¬ c :: cs <:+: s) (hs' : ¬ c :: cs <:+: s')
    (h : s ++ (c :: cs ++ rest) = s' ++ (c :: cs ++ rest')) : s = s' ∧ rest = rest' := by
  have hfront : s = s' := by
    -- one front is the start of the other; what it lacks would be cut off the mark
    rcases List.append_eq_append_iff.mp h with ⟨t, rfl, ht⟩ | ⟨t, rfl, ht⟩
    · rw [eq_nil_of_append_mark hc hs' ht, List.append_nil]
    · rw [eq_nil_of_append_mark hc hs ht, List.append_nil]
  subst hfront
  exact ⟨rfl, List.append_cancel_left (List.append_cancel_left h)⟩

end Places

/-! ### Cutting

The pieces are taken from the front, one at a time. A cut text is its last piece or goes on
behind the mark, and since the first place of the mark is fixed by the text, so is
everything behind it. -/

variable {mark text : String} {pieces : List String}

theorem cut_self (h : ¬ mark.toList <:+: text.toList) : Cut mark text [text] :=
  ⟨List.cons_ne_nil _ _, List.forall_mem_singleton.mpr h, String.intercalate_singleton⟩

namespace Cut

theorem append {front back : String} {ps qs : List String} (h : Cut mark front ps)
    (h' : Cut mark back qs) : Cut mark (front ++ mark ++ back) (ps ++ qs) where
  ne_nil := List.append_ne_nil_of_left_ne_nil h.ne_nil qs
  free := List.forall_mem_append.mpr ⟨h.free, h'.free⟩
  joined := by
    rw [String.intercalate_append_of_ne_nil h.ne_nil h'.ne_nil, h.joined, h'.joined]

/-- A text is its only piece, or the first piece with the mark and a text that is cut behind it. -/
theorem cases (h : Cut mark text pieces) :
    (¬ mark.toList <:+: text.toList ∧ pieces = [text]) ∨
      ∃ p rest ps, ¬ mark.toList <:+: p.toList ∧ Cut mark rest ps ∧
        text = p ++ mark ++ rest ∧ pieces = p :: ps := by
  obtain ⟨hne, hfree, rfl⟩ := h
  obtain ⟨p, ps, rfl⟩ := List.exists_cons_of_ne_nil hne
  obtain ⟨hp, hfree⟩ := List.forall_mem_cons.mp hfree
  cases ps with
  | nil =>
      rw [String.intercalate_singleton]
      exact Or.inl ⟨hp, rfl⟩
  | cons q qs =>
      rw [String.intercalate_cons_cons]
      exact Or.inr ⟨p, _, q :: qs, hp, ⟨List.cons_ne_nil _ _, hfree, rfl⟩, rfl, rfl⟩

/-- There is no more than one way to cut a text. -/
theorem unique {other : List String} (hmark : IsMark mark) (h : Cut mark text pieces)
    (hother : Cut mark text other) : pieces = other := by
  obtain ⟨c, cs, hchars, hc⟩ := hmark
  have hoccurs : ∀ p rest : String, mark.toList <:+: (p ++ mark ++ rest).toList := by
    intro p rest
    rw [String.toList_append, String.toList_append]
    exact List.infix_append _ _ _
  induction pieces generalizing text other with
  | nil => exact absurd rfl h.ne_nil
  | cons _ _ ih =>
      -- both cuts end here or both go on; in the mixed cases the
      -- mark is said to occur and not to occur
      rcases h.cases with ⟨hwhole, hpieces⟩ | ⟨p, rest, ps, hp, hps, rfl, hpieces⟩ <;>
        rcases hother.cases with ⟨hwhole', rfl⟩ | ⟨q, rest', qs, hq, hqs, htext, rfl⟩
      · exact hpieces
      · rw [htext] at hwhole
        exact absurd (hoccurs q rest') hwhole
      · exact absurd (hoccurs p rest) hwhole'
      · -- the first pieces end at the same place of the mark
        have hsame := congrArg String.toList htext
        simp only [String.toList_append, List.append_assoc] at hsame
        rw [hchars] at hp hq hsame
        obtain ⟨hfront, hback⟩ := append_mark_inj hc hp hq hsame
        obtain rfl := String.toList_inj.mp hfront
        obtain rfl := String.toList_inj.mp hback
        obtain ⟨rfl, rfl⟩ := List.cons.inj hpieces
        rw [ih hps hqs]

end Cut

/-- Every text can be cut. -/
theorem exists_cut (hmark : mark ≠ "") (text : String) : ∃ pieces, Cut mark text pieces := by
  induction hn : text.toList.length using Nat.strongRecOn generalizing text with
  | _ n ih =>
      subst hn
      by_cases hoccurs : mark.toList <:+: text.toList
      · -- at any place of the mark, both sides are shorter
        obtain ⟨front, back, hchars⟩ := hoccurs
        have hpos : 0 < mark.toList.length :=
          List.length_pos_iff.mpr fun h => hmark (String.toList_eq_nil_iff.mp h)
        have hlength := congrArg List.length hchars
        rw [List.length_append, List.length_append] at hlength
        obtain ⟨ps, hps⟩ := ih front.length (by omega) (String.ofList front) (by simp)
        obtain ⟨qs, hqs⟩ := ih back.length (by omega) (String.ofList back) (by simp)
        have htext : String.ofList front ++ mark ++ String.ofList back = text := by
          apply String.toList_inj.mp
          simpa using hchars
        rw [← htext]
        exact ⟨ps ++ qs, hps.append hqs⟩
      · exact ⟨[text], cut_self hoccurs⟩

theorem IsMark.ne_empty (hmark : IsMark mark) : mark ≠ "" := by
  obtain ⟨c, cs, hchars, -⟩ := hmark
  rintro rfl
  cases hchars

namespace Cut

/-- The mark stands where two pieces meet, and nowhere else. -/
theorem eq_append_iff {front back : String} (hmark : IsMark mark) (h : Cut mark text pieces) :
    text = front ++ mark ++ back ↔
      ∃ ps qs, Cut mark front ps ∧ Cut mark back qs ∧ pieces = ps ++ qs := by
  constructor
  · rintro rfl
    obtain ⟨ps, hps⟩ := exists_cut hmark.ne_empty front
    obtain ⟨qs, hqs⟩ := exists_cut hmark.ne_empty back
    -- the pieces of both sides together are a cut, and there is only one
    exact ⟨ps, qs, hps, hqs, h.unique hmark (hps.append hqs)⟩
  · rintro ⟨ps, qs, hps, hqs, rfl⟩
    exact h.joined.symm.trans (hps.append hqs).joined

/-- Replacing the mark joins the pieces by the new text. -/
theorem replace_eq (hmark : IsMark mark) (h : Cut mark text pieces) (new : String) :
    replace text mark new = new.intercalate pieces := by
  obtain ⟨c, cs, hchars, hc⟩ := hmark
  induction pieces generalizing text with
  | nil => exact absurd rfl h.ne_nil
  | cons _ _ ih =>
      rcases h.cases with ⟨hwhole, hpieces⟩ | ⟨p, rest, ps, hp, hps, rfl, hpieces⟩
      -- the last piece holds no mark, so nothing is replaced in it
      · have hself : replaceChars mark.toList new.toList text.toList = text.toList := by
          apply replaceChars_eq_self
          intro n _ hplace
          exact hwhole (hplace.isInfix.trans (List.drop_suffix n text.toList).isInfix)
        rw [hpieces, replace, hself, String.ofList_toList, String.intercalate_singleton]
      · obtain ⟨rfl, rfl⟩ := List.cons.inj hpieces
        rw [hchars] at hp
        rw [String.intercalate_cons_of_ne_nil hps.ne_nil, ← ih hps]
        apply String.toList_inj.mp
        simp only [replace, String.toList_append, String.toList_ofList, List.append_assoc, hchars]
        exact replaceChars_append_mark hc hp

end Cut

/-! ### Joining

Joining the same pieces by two different texts gives two different texts. Their lengths
already tell how long each of the two is, if there is a joint at all, and then they stand at
the same place behind the first piece. -/

/-- Joined pieces are longer than the pieces by what is put into the joints. -/
theorem exists_length_intercalate (p : String) (ps : List String) : ∃ n, ∀ new : String,
    (new.intercalate (p :: ps)).length = n + ps.length * new.length := by
  induction ps generalizing p with
  | nil =>
      refine ⟨p.length, fun new => ?_⟩
      rw [String.intercalate_singleton, List.length_nil, Nat.zero_mul, Nat.add_zero]
  | cons q qs ih =>
      obtain ⟨n, hn⟩ := ih q
      refine ⟨p.length + n, fun new => ?_⟩
      rw [String.intercalate_cons_cons, String.length_append, String.length_append, hn,
        List.length_cons, Nat.succ_mul]
      omega

/-- What pieces are joined by can be told from the text that they make. -/
theorem intercalate_injective (h : 2 ≤ pieces.length) :
    Function.Injective fun new : String => new.intercalate pieces := by
  intro new new' heq
  obtain ⟨p, q, qs, rfl⟩ : ∃ p q qs, pieces = p :: q :: qs := by
    match pieces, h with
    | p :: q :: qs, _ => exact ⟨p, q, qs, rfl⟩
  have hlength : new.length = new'.length := by
    obtain ⟨n, hn⟩ := exists_length_intercalate p (q :: qs)
    -- the pieces count the same in both, so the joints do
    have h := congrArg String.length heq
    rw [hn, hn] at h
    exact Nat.eq_of_mul_eq_mul_left (Nat.succ_pos qs.length) (Nat.add_left_cancel h)
  have hchars := congrArg String.toList heq
  simp only [String.intercalate_cons_cons, String.toList_append, List.append_assoc] at hchars
  apply String.toList_inj.mp
  exact (List.append_inj (List.append_cancel_left hchars) hlength).1

end MailMerge.Text
