import Mathlib.Data.Set.Function
import MailMerge.Proofs.Regex.Stands

/-!
# Ways that mirror each other

A direct way through one pattern mirrors one through another if they have the same ends and each
says where the other stands: functions that depend on the patterns alone take the spots of either to
spots of the other (`Mirrors`). So ways without a spot in common are mirrored by ways without one,
and pieces that mirror each other can be put together (`Mirrors.seq`, `.first`, `.second`, `.last`,
`.again`).
-/

namespace MailMerge.Regex

variable {text : Array Char} {p q r p' q' : Pattern} {s : Spot} {u v v' w w' : List Visit}
  {i j k c : Nat} {f g f' g' : Spot → Spot} {greedy : Bool}

/-- Whether a direct way through `p` and one through `q` have the same ends, and `f` takes the spots
of the first to spots of the second and `g` those of the second to spots of the first. -/
structure Mirrors (text : Array Char) (p q : Pattern) (f g : Spot → Spot) (i : Nat)
    (v w : List Visit) (j : Nat) : Prop where
  left : Way text p i v j
  right : Way text q i w j
  left_direct : IsDirect v
  right_direct : IsDirect w
  to_right : Set.MapsTo f (stands v j) (stands w j)
  to_left : Set.MapsTo g (stands w j) (stands v j)

/-! ### The spots of pieces put together

Each piece has its range of parts, so where a spot lies says to which piece it belongs, and
it is taken over by the function of that piece. The end of a piece is the only spot with no
part of its own; it is the start of the next piece, or what follows the whole. -/

/-- What takes the spots of a sequence to those of another: `g` does where the second member is. -/
def seqSpots (q q' : Pattern) (f g : Spot → Spot) (s : Spot) : Spot :=
  if s.1 ≤ q.parts then g s else raise q'.parts (f (s.1 - q.parts, s.2))

/-- What takes the spots of two alternatives to those of two others. -/
def altSpots (p q p' q' : Pattern) (f g : Spot → Spot) (s : Spot) : Spot :=
  if s.1 = 0 then s
  else if s.1 ≤ q.parts then g s
  else if s.1 ≤ q.parts + p.parts then raiseParts q'.parts (f (s.1 - q.parts, s.2))
  else (q'.parts + p'.parts + 1, s.2)

/-- What takes the spots of a repetition to those of another. -/
def plusSpots (f : Spot → Spot) (s : Spot) : Spot :=
  if s.1 = 0 then s else raise 1 (f (s.1 - 1, s.2))

theorem seqSpots_raise (h : s.1 ≠ 0) :
    seqSpots q q' f g (raise q.parts s) = raise q'.parts (f s) := by
  rw [seqSpots, if_neg (by simp only [raise]; omega)]
  simp only [raise, Nat.add_sub_cancel_left]

theorem mapsTo_seq (hw : Way text q j w k) (hw' : Way text q' j w' k)
    (hf : Set.MapsTo f (stands v j) (stands v' j)) (hg : Set.MapsTo g (stands w k) (stands w' k)) :
    Set.MapsTo (seqSpots q q' f g) (stands (v.map (.shift q.parts) ++ w) k)
      (stands (v'.map (.shift q'.parts) ++ w') k) := by
  rw [stands_append hw.entry_mem, stands_append hw'.entry_mem]
  -- a spot of the second piece, and so also the end of the first
  have hsecond {s : Spot} (hs : s ∈ stands w k) : seqSpots q q' f g s ∈ stands w' k := by
    rw [seqSpots, if_pos (hw.within_stands hs).1]
    exact hg hs
  rintro _ (⟨s, hs, rfl⟩ | hs)
  · by_cases h : s.1 = 0
    -- the end of the first piece has no part of its own
    · obtain rfl := eq_of_mem_stands hs h
      exact .inr (hsecond hw.entry_mem)
    · refine .inl ⟨f s, hf hs, ?_⟩
      exact (seqSpots_raise h).symm
  · exact .inr (hsecond hs)

theorem altSpots_top :
    altSpots p q p' q' f g (q.parts + p.parts + 1, i) = (q'.parts + p'.parts + 1, i) := by
  rw [altSpots, if_neg (Nat.succ_ne_zero _), if_neg (by dsimp only; omega),
    if_neg (by dsimp only; omega)]

theorem altSpots_raise (h : s.1 ≠ 0) (hs : s.1 ≤ p.parts) :
    altSpots p q p' q' f g (raiseParts q.parts s) = raiseParts q'.parts (f s) := by
  rw [raiseParts, if_neg h, altSpots, raise, if_neg (by dsimp only; omega),
    if_neg (by dsimp only; omega), if_pos (by dsimp only; omega), Nat.add_sub_cancel_left]

theorem mapsTo_first (hv : Way text p i v j)
    (hf : Set.MapsTo f (stands v j) (stands v' j)) :
    Set.MapsTo (altSpots p q p' q' f g)
      (stands (⟨q.parts + p.parts, i, c⟩ :: v.map (.shift q.parts)) j)
      (stands (⟨q'.parts + p'.parts, i, c⟩ :: v'.map (.shift q'.parts)) j) := by
  rw [stands_first, stands_first]
  rintro _ (rfl | ⟨s, hs, rfl⟩)
  · exact .inl altSpots_top
  · by_cases h : s.1 = 0
    -- behind the alternative is behind both
    · obtain rfl := eq_of_mem_stands hs h
      exact .inr ⟨(0, j), end_mem_stands, rfl⟩
    · refine .inr ⟨f s, hf hs, ?_⟩
      exact (altSpots_raise h (hv.within_stands hs).1).symm

theorem mapsTo_second (hw : Way text q i w j)
    (hg : Set.MapsTo g (stands w j) (stands w' j)) :
    Set.MapsTo (altSpots p q p' q' f g) (stands (⟨q.parts + p.parts, i, c⟩ :: w) j)
      (stands (⟨q'.parts + p'.parts, i, c⟩ :: w') j) := by
  rw [stands_cons, stands_cons]
  rintro s (rfl | hs)
  · exact .inl altSpots_top
  · by_cases h : s.1 = 0
    · obtain rfl := eq_of_mem_stands hs h
      exact .inr end_mem_stands
    · refine .inr ?_
      rw [altSpots, if_neg h, if_pos (hw.within_stands hs).1]
      exact hg hs

@[simp] theorem plusSpots_raise : plusSpots f (raise 1 s) = raise 1 (f s) := by
  simp [plusSpots, raise]

theorem mapsTo_end : Set.MapsTo (plusSpots f) (stands [] j) (stands [] j) := by
  rw [stands_nil]
  rintro _ rfl
  rfl

theorem mapsTo_round (hf : Set.MapsTo f (stands v j) (stands v' j))
    (hw : Set.MapsTo (plusSpots f) (stands w k) (stands w' k)) :
    Set.MapsTo (plusSpots f) (stands (v.map (.shift 1) ++ ⟨0, j, c⟩ :: w) k)
      (stands (v'.map (.shift 1) ++ ⟨0, j, c⟩ :: w') k) := by
  rw [stands_round, stands_round]
  rintro _ (⟨s, hs, rfl⟩ | hs)
  · exact .inl ⟨f s, hf hs, plusSpots_raise.symm⟩
  · exact .inr (hw hs)

/-! ### Pieces put together

The functions of the pieces are put together as the pieces are. Only a repetition needs
more: two rounds may stand on one spot, and that they do not has to be carried from one side
to the other. The functions do that, since a spot in common would go to a spot in common. -/

namespace Mirrors

theorem trans (h : Mirrors text p q f g i u v j)
    (h' : Mirrors text q r f' g' i v w j) : Mirrors text p r (f' ∘ f) (g ∘ g') i u w j :=
  ⟨h.left, h'.right, h.left_direct, h'.right_direct, h'.to_right.comp h.to_right,
    h.to_left.comp h'.to_left⟩

theorem seq (hv : Mirrors text p p' f g i v v' j) (hw : Mirrors text q q' f' g' j w w' k) :
    Mirrors text (.seq p q) (.seq p' q') (seqSpots q q' f f') (seqSpots q' q g g') i
      (v.map (.shift q.parts) ++ w) (v'.map (.shift q'.parts) ++ w') k :=
  ⟨.seq hv.left hw.left, .seq hv.right hw.right,
    (isDirect_seq hw.left).mpr ⟨hv.left_direct, hw.left_direct⟩,
    (isDirect_seq hw.right).mpr ⟨hv.right_direct, hw.right_direct⟩,
    mapsTo_seq hw.left hw.right hv.to_right hw.to_right,
    mapsTo_seq hw.right hw.left hv.to_left hw.to_left⟩

theorem first (h : Mirrors text p p' f g i v v' j) :
    Mirrors text (.alt p q) (.alt p' q') (altSpots p q p' q' f f') (altSpots p' q' p q g g') i
      (⟨q.parts + p.parts, i, 0⟩ :: v.map (.shift q.parts))
      (⟨q'.parts + p'.parts, i, 0⟩ :: v'.map (.shift q'.parts)) j :=
  ⟨.first h.left, .first h.right, (isDirect_first h.left).mpr h.left_direct,
    (isDirect_first h.right).mpr h.right_direct, mapsTo_first h.left h.to_right,
    mapsTo_first h.right h.to_left⟩

theorem second (h : Mirrors text q q' f' g' i w w' j) :
    Mirrors text (.alt p q) (.alt p' q') (altSpots p q p' q' f f') (altSpots p' q' p q g g') i
      (⟨q.parts + p.parts, i, 1⟩ :: w) (⟨q'.parts + p'.parts, i, 1⟩ :: w') j :=
  ⟨.second h.left, .second h.right, (isDirect_second h.left).mpr h.left_direct,
    (isDirect_second h.right).mpr h.right_direct, mapsTo_second h.left h.to_right,
    mapsTo_second h.right h.to_left⟩

theorem last (h : Mirrors text p q f g i v w j) :
    Mirrors text (.repeated greedy 1 none p) (.repeated greedy 1 none q) (plusSpots f) (plusSpots g)
      i (v.map (.shift 1) ++ [⟨0, j, stopping greedy⟩])
      (w.map (.shift 1) ++ [⟨0, j, stopping greedy⟩]) j :=
  ⟨.last h.left, .last h.right, isDirect_last.mpr h.left_direct, isDirect_last.mpr h.right_direct,
    mapsTo_round h.to_right mapsTo_end, mapsTo_round h.to_left mapsTo_end⟩

/-- A round and those behind it that have no spot in common are mirrored by ones that have none in
common. -/
theorem again (hv : Mirrors text p q f g i v v' j)
    (hw : Mirrors text (.repeated greedy 1 none p) (.repeated greedy 1 none q) (plusSpots f)
      (plusSpots g) j w w' k)
    (hapart : (∀ s ∈ stands v j, raise 1 s ∉ stands w k) ∨
      ∀ s ∈ stands v' j, raise 1 s ∉ stands w' k) :
    Mirrors text (.repeated greedy 1 none p) (.repeated greedy 1 none q) (plusSpots f) (plusSpots g)
      i (v.map (.shift 1) ++ ⟨0, j, goingOn greedy⟩ :: w)
      (v'.map (.shift 1) ++ ⟨0, j, goingOn greedy⟩ :: w') k := by
  -- from the right to the left, if that is where it is given
  have hleft : ∀ s ∈ stands v j, raise 1 s ∉ stands w k := by
    refine hapart.elim id fun h s hs hs' => h _ (hv.to_right hs) ?_
    rw [← plusSpots_raise]
    exact hw.to_right hs'
  -- and then it is so on the right in any case
  have hright : ∀ s ∈ stands v' j, raise 1 s ∉ stands w' k := by
    refine fun s hs hs' => hleft _ (hv.to_left hs) ?_
    rw [← plusSpots_raise]
    exact hw.to_left hs'
  exact ⟨.again hv.left hw.left, .again hv.right hw.right,
    isDirect_again.mpr ⟨hv.left_direct, hw.left_direct, hleft⟩,
    isDirect_again.mpr ⟨hv.right_direct, hw.right_direct, hright⟩,
    mapsTo_round hv.to_right hw.to_right, mapsTo_round hv.to_left hw.to_left⟩

end Mirrors

end MailMerge.Regex
