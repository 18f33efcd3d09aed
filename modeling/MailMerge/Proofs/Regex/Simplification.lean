import MailMerge.Proofs.Regex.Mirror
import MailMerge.Proofs.Regex.Order

/-!
# Simplification

A pattern `q` is a simplification of a pattern `p` if their ways mirror each other and the order of
ways is kept as far as the first one needs it (`Simplification`): several ways through `p` may stand
behind a single one through `q`, but none comes first on one side only. What is simplified may stand
anywhere in a larger pattern (`Simplification.seq`, `.alt`, `.plus`).
-/

namespace MailMerge.Regex

variable {text : Array Char} {p q r p' q' : Pattern} {f g f' g' : Spot → Spot} {i j : Nat}
  {v v' w w' : List Visit} {greedy : Bool}

/-- Whether all direct ways through `q` that come before `w` mirror ways through `p` that come
before `v`. -/
def EarlierMirrored (text : Array Char) (p q : Pattern) (f g : Spot → Spot) (i : Nat)
    (v w : List Visit) : Prop :=
  ∀ w' k, Way text q i w' k → IsDirect w' → Precedes w' w →
    ∃ v', Mirrors text p q f g i v' w' k ∧ Precedes v' v

/-- Whether every direct way through `p` or `q` is mirrored by one through the other, and for the
ways through `p` this is so that earlier ones stand on both sides. -/
structure Simplification (text : Array Char) (p q : Pattern) (f g : Spot → Spot) : Prop where
  exists_left {i j : Nat} {w : List Visit} : i ≤ text.size → Way text q i w j → IsDirect w →
    ∃ v, Mirrors text p q f g i v w j
  exists_right {i j : Nat} {v : List Visit} : i ≤ text.size → Way text p i v j → IsDirect v →
    ∃ w, Mirrors text p q f g i v w j ∧ EarlierMirrored text p q f g i v w

namespace Simplification

theorem trans (h : Simplification text p q f g) (h' : Simplification text q r f' g') :
    Simplification text p r (f' ∘ f) (g ∘ g') where
  exists_left hi hw hdirect := by
    obtain ⟨v, hv⟩ := h'.exists_left hi hw hdirect
    obtain ⟨u, hu⟩ := h.exists_left hi hv.left hv.left_direct
    exact ⟨u, hu.trans hv⟩
  exists_right hi hu hdirect := by
    obtain ⟨v, huv, hearlier⟩ := h.exists_right hi hu hdirect
    obtain ⟨w, hvw, hearlier'⟩ := h'.exists_right hi huv.right huv.right_direct
    -- an earlier way is carried back over one pattern, then over the other
    refine ⟨w, huv.trans hvw, fun w' k hw' hdirect' hlt => ?_⟩
    obtain ⟨v', hv', hlt⟩ := hearlier' w' k hw' hdirect' hlt
    obtain ⟨u', hu', hlt⟩ := hearlier v' k hv'.left hv'.left_direct hlt
    exact ⟨u', hu'.trans hv', hlt⟩

/-! ### Sequences

A way through a sequence that comes before another one parts from it in the first piece or
in the second. In the first, its second piece is any way at all, which the other side
mirrors somehow; in the second, both first pieces are the same. -/

theorem earlier_seq (h' : Simplification text q q' f' g') (hi : i ≤ text.size)
    (hv : Mirrors text p p' f g i v v' j) (hearlier : EarlierMirrored text p p' f g i v v')
    (hearlier' : EarlierMirrored text q q' f' g' j w w') :
    EarlierMirrored text (.seq p q) (.seq p' q') (seqSpots q q' f f') (seqSpots q' q g g') i
      (v.map (.shift q.parts) ++ w) (v'.map (.shift q'.parts) ++ w') := by
  intro _ k hway hdirect hlt
  cases hway with
  | seq hx hy =>
      rw [isDirect_seq hy] at hdirect
      rcases hv.right.precedes_append hx hlt with ⟨rfl, rfl, hlt⟩ | hlt
      -- the first pieces agree, and the second one is earlier
      · obtain ⟨y', hy', hlt⟩ := hearlier' _ _ hy hdirect.2 hlt
        exact ⟨_, hv.seq hy', precedes_append_left_iff.mpr hlt⟩
      -- the first piece is earlier, and the second one follows it in some way
      · obtain ⟨x', hx', hlt⟩ := hearlier _ _ hx hdirect.1 hlt
        obtain ⟨y', hy'⟩ := h'.exists_left (hx.le_size hi) hy hdirect.2
        exact ⟨_, hx'.seq hy', (precedes_map_shift.mpr hlt).append _ _⟩

theorem seq (h : Simplification text p p' f g) (h' : Simplification text q q' f' g') :
    Simplification text (.seq p q) (.seq p' q') (seqSpots q q' f f') (seqSpots q' q g g') where
  exists_left hi hway hdirect := by
    cases hway with
    | seq hv hw =>
        rw [isDirect_seq hw] at hdirect
        obtain ⟨v', hv'⟩ := h.exists_left hi hv hdirect.1
        obtain ⟨w', hw'⟩ := h'.exists_left (hv.le_size hi) hw hdirect.2
        exact ⟨_, hv'.seq hw'⟩
  exists_right hi hway hdirect := by
    cases hway with
    | seq hv hw =>
        rw [isDirect_seq hw] at hdirect
        obtain ⟨v', hv', hearlier⟩ := h.exists_right hi hv hdirect.1
        obtain ⟨w', hw', hearlier'⟩ := h'.exists_right (hv.le_size hi) hw hdirect.2
        exact ⟨_, hv'.seq hw', h'.earlier_seq hi hv' hearlier hearlier'⟩

/-! ### Alternatives

Before a way through the first alternative come only ways through it; before one through the
second come all ways through the first, however they go on. -/

theorem earlier_first (hearlier : EarlierMirrored text p p' f g i v v') :
    EarlierMirrored text (.alt p q) (.alt p' q') (altSpots p q p' q' f f')
      (altSpots p' q' p q g g') i (⟨q.parts + p.parts, i, 0⟩ :: v.map (.shift q.parts))
      (⟨q'.parts + p'.parts, i, 0⟩ :: v'.map (.shift q'.parts)) := by
  intro _ k hway hdirect hlt
  cases hway with
  | first hx =>
      obtain ⟨x', hx', hlt⟩ := hearlier _ _ hx ((isDirect_first hx).mp hdirect)
        (by simpa using hlt)
      exact ⟨_, hx'.first, by simpa using hlt⟩
  -- the second alternative comes after the first
  | second => simp at hlt

theorem earlier_second (h : Simplification text p p' f g) (hi : i ≤ text.size)
    (hearlier : EarlierMirrored text q q' f' g' i w w') :
    EarlierMirrored text (.alt p q) (.alt p' q') (altSpots p q p' q' f f')
      (altSpots p' q' p q g g') i (⟨q.parts + p.parts, i, 1⟩ :: w)
      (⟨q'.parts + p'.parts, i, 1⟩ :: w') := by
  intro _ k hway hdirect hlt
  cases hway with
  -- any way through the first alternative, so it is enough that one mirrors it
  | first hx =>
      obtain ⟨x', hx'⟩ := h.exists_left hi hx ((isDirect_first hx).mp hdirect)
      exact ⟨_, hx'.first, .here Nat.one_pos⟩
  | second hy =>
      obtain ⟨y', hy', hlt⟩ := hearlier _ _ hy ((isDirect_second hy).mp hdirect)
        (by simpa using hlt)
      exact ⟨_, hy'.second, .there hlt⟩

theorem alt (h : Simplification text p p' f g) (h' : Simplification text q q' f' g') :
    Simplification text (.alt p q) (.alt p' q') (altSpots p q p' q' f f')
      (altSpots p' q' p q g g') where
  exists_left hi hway hdirect := by
    cases hway with
    | first hv =>
        obtain ⟨v', hv'⟩ := h.exists_left hi hv ((isDirect_first hv).mp hdirect)
        exact ⟨_, hv'.first⟩
    | second hw =>
        obtain ⟨w', hw'⟩ := h'.exists_left hi hw ((isDirect_second hw).mp hdirect)
        exact ⟨_, hw'.second⟩
  exists_right hi hway hdirect := by
    cases hway with
    | first hv =>
        obtain ⟨v', hv', hearlier⟩ := h.exists_right hi hv ((isDirect_first hv).mp hdirect)
        exact ⟨_, hv'.first, earlier_first hearlier⟩
    | second hw =>
        obtain ⟨w', hw', hearlier⟩ := h'.exists_right hi hw ((isDirect_second hw).mp hdirect)
        exact ⟨_, hw'.second, h.earlier_second hi hearlier⟩

/-! ### Repetitions

Rounds are compared like pieces of a sequence, with the choice between going on and stopping
after each. A repetition is simplified round by round, and what may go wrong is only that
two rounds stand on one spot: the rounds of the mirror lie on the images of these spots, so
one side is direct if the other is. -/

/-- By induction on the rounds: those that mirror others have no spot in common either. -/
theorem plus_exists_left (h : Simplification text p q f g) (hi : i ≤ text.size)
    (hw : Way text (.repeated greedy 1 none q) i w j) (hdirect : IsDirect w) :
    ∃ v, Mirrors text (.repeated greedy 1 none p) (.repeated greedy 1 none q) (plusSpots f)
      (plusSpots g) i v w j := by
  -- the pattern must be a variable for the induction on the way
  generalize hr : Pattern.repeated greedy 1 none q = r at hw
  induction hw with
  | last hv =>
      cases hr
      obtain ⟨v', hv'⟩ := h.exists_left hi hv (isDirect_last.mp hdirect)
      exact ⟨_, hv'.last⟩
  | @again _ _ _ _ k _ _ hv hw _ ih =>
      cases hr
      obtain ⟨hdv, hdw, hapart⟩ := (isDirect_again (k := k)).mp hdirect
      obtain ⟨v', hv'⟩ := h.exists_left hi hv hdv
      obtain ⟨w', hw'⟩ := ih (hv.le_size hi) hdw rfl
      exact ⟨_, hv'.again hw' (.inr hapart)⟩
  | unrolled hq =>
      cases hr
      cases hq
  | _ => cases hr

/-- What comes before a last round: one with an earlier way, or more rounds where going on is
preferred. -/
theorem earlier_last (h : Simplification text p q f g) (hi : i ≤ text.size)
    (hv : Mirrors text p q f g i v v' j) (hearlier : EarlierMirrored text p q f g i v v') :
    EarlierMirrored text (.repeated greedy 1 none p) (.repeated greedy 1 none q) (plusSpots f)
      (plusSpots g) i (v.map (.shift 1) ++ [⟨0, j, stopping greedy⟩])
      (v'.map (.shift 1) ++ [⟨0, j, stopping greedy⟩]) := by
  intro _ k hway hdirect hlt
  cases hway with
  | last hx =>
      rcases hv.right.precedes_append hx hlt with ⟨-, -, hlt⟩ | hlt
      -- the same round, and then the same choice: nothing is earlier
      · simp at hlt
      · obtain ⟨x', hx', hlt⟩ := hearlier _ _ hx (isDirect_last.mp hdirect) hlt
        exact ⟨_, hx'.last, (precedes_map_shift.mpr hlt).append _ _⟩
  | again hx hy =>
      obtain ⟨hdx, hdy, hapart⟩ := (isDirect_again (k := k)).mp hdirect
      obtain ⟨y', hy'⟩ := h.plus_exists_left (hx.le_size hi) hy hdy
      rcases hv.right.precedes_append hx hlt with ⟨rfl, rfl, hlt⟩ | hlt
      -- the same round, and going on where the other one stops
      · refine ⟨_, hv.again hy' (.inr hapart), precedes_append_left_iff.mpr ?_⟩
        simpa using hlt
      · obtain ⟨x', hx', hlt⟩ := hearlier _ _ hx hdx hlt
        exact ⟨_, hx'.again hy' (.inr hapart), (precedes_map_shift.mpr hlt).append _ _⟩
  | unrolled hq => cases hq

/-- What comes before rounds: some with an earlier first one, the same first one where stopping is
preferred, or the same first one with earlier ones behind it. -/
theorem earlier_again (h : Simplification text p q f g) (hi : i ≤ text.size)
    (hv : Mirrors text p q f g i v v' j) (hearlier : EarlierMirrored text p q f g i v v')
    (hearlier' : EarlierMirrored text (.repeated greedy 1 none p) (.repeated greedy 1 none q)
      (plusSpots f) (plusSpots g) j w w') :
    EarlierMirrored text (.repeated greedy 1 none p) (.repeated greedy 1 none q) (plusSpots f)
      (plusSpots g) i (v.map (.shift 1) ++ ⟨0, j, goingOn greedy⟩ :: w)
      (v'.map (.shift 1) ++ ⟨0, j, goingOn greedy⟩ :: w') := by
  intro _ k hway hdirect hlt
  cases hway with
  | last hx =>
      rcases hv.right.precedes_append hx hlt with ⟨rfl, rfl, hlt⟩ | hlt
      -- the same round, and stopping where the other one goes on
      · refine ⟨_, hv.last, precedes_append_left_iff.mpr ?_⟩
        simpa using hlt
      · obtain ⟨x', hx', hlt⟩ := hearlier _ _ hx (isDirect_last.mp hdirect) hlt
        exact ⟨_, hx'.last, (precedes_map_shift.mpr hlt).append _ _⟩
  | again hx hy =>
      obtain ⟨hdx, hdy, hapart⟩ := (isDirect_again (k := k)).mp hdirect
      rcases hv.right.precedes_append hx hlt with ⟨rfl, rfl, hlt⟩ | hlt
      -- the same round, and earlier ones behind it
      · obtain ⟨y', hy', hlt⟩ := hearlier' _ _ hy hdy (by simpa using hlt)
        refine ⟨_, hv.again hy' (.inr hapart), precedes_append_left_iff.mpr ?_⟩
        simpa using hlt
      · obtain ⟨x', hx', hlt⟩ := hearlier _ _ hx hdx hlt
        obtain ⟨y', hy'⟩ := h.plus_exists_left (hx.le_size hi) hy hdy
        exact ⟨_, hx'.again hy' (.inr hapart), (precedes_map_shift.mpr hlt).append _ _⟩
  | unrolled hq => cases hq

theorem plus (h : Simplification text p q f g) :
    Simplification text (.repeated greedy 1 none p) (.repeated greedy 1 none q) (plusSpots f)
      (plusSpots g) where
  exists_left := h.plus_exists_left
  exists_right hi hway hdirect := by
    generalize hr : Pattern.repeated greedy 1 none p = r at hway
    induction hway with
    | last hv =>
        cases hr
        obtain ⟨v', hv', hearlier⟩ := h.exists_right hi hv (isDirect_last.mp hdirect)
        exact ⟨_, hv'.last, h.earlier_last hi hv' hearlier⟩
    | @again _ _ _ _ k _ _ hv hw _ ih =>
        cases hr
        obtain ⟨hdv, hdw, hapart⟩ := (isDirect_again (k := k)).mp hdirect
        obtain ⟨v', hv', hearlier⟩ := h.exists_right hi hv hdv
        obtain ⟨w', hw', hearlier'⟩ := ih (hv.le_size hi) hdw rfl
        -- the spots are apart on the left, so they are on the right
        exact ⟨_, hv'.again hw' (.inl hapart), h.earlier_again hi hv' hearlier hearlier'⟩
    | unrolled hq =>
        cases hr
        cases hq
    | _ => cases hr

end Simplification

end MailMerge.Regex
