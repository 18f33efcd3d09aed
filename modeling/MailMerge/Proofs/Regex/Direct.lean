import MailMerge.Proofs.Regex.Leftmost
import MailMerge.Proofs.Regex.Stands

/-!
# Patterns without circles

Only a repetition without an upper bound leads back to where a way has been, and at the same
position only if it repeats the empty text. Where none does (`Productive`), every way is direct
(`Way.isDirect`): then the first match is the first of all ways, whatever they come to
(`firstMatch_iff_of_productive`). That ways come to no part twice is asked for in a first match only
because of the other patterns, through which there may be ways without end.

Two ways that meet can be joined (`Way.join`). Were a round to come to a part at a position where
the round before has been, then the start of the one and the end of the other would make a round of
the empty text.
-/

namespace MailMerge.Regex

variable {prog : Program} {text : Array Char} {p q : Pattern} {s t : Spot} {x y : Visit}
  {v w : List Visit} {i j k l : Nat}

/-! ### Joining ways

A visit tells the part and the position, and these are all that the rest of a way depends
on. As paths, two ways that have a visit in common can be cut there and put together. -/

theorem Path.exists_split (h : Path prog text s w t) (hx : x ∈ w) :
    ∃ a b, Path prog text s a x.spot ∧ Path prog text x.spot b t := by
  induction h with
  | nil => simp at hx
  | cons hi hk hw ih =>
      rcases List.mem_cons.mp hx with rfl | hx
      · exact ⟨_, _, .nil, .cons hi hk hw⟩
      · obtain ⟨a, b, ha, hb⟩ := ih hx
        exact ⟨_, b, .cons hi hk ha, hb⟩

/-- Where two ways meet, one can start with the first and end with the second. -/
theorem Way.join (hv : Way text p i v j) (hw : Way text p k w l) (hx : x ∈ v) (hy : y ∈ w)
    (hxy : x.spot = y.spot) : ∃ u, Way text p i u l := by
  obtain ⟨a, -, ha, -⟩ := (path_program_iff.mpr ⟨v, rfl, hv⟩).exists_split (List.mem_map_of_mem hx)
  obtain ⟨-, b, -, hb⟩ := (path_program_iff.mpr ⟨w, rfl, hw⟩).exists_split (List.mem_map_of_mem hy)
  have hspot : (x.shift 1).spot = (y.shift 1).spot := by
    simp only [Visit.spot, Prod.mk.injEq] at hxy
    simp only [Visit.spot, Visit.shift, hxy]
  obtain ⟨u, -, hu⟩ := path_program_iff.mp (ha.append (hspot ▸ hb))
  exact ⟨u, hu⟩

/-! ### Repetitions that make progress -/

namespace Pattern

/-- Whether no repetition without an upper bound repeats the empty text. -/
def Productive (text : Array Char) : Pattern → Prop
  | .empty | .chars _ | .look _ => True
  | .group _ p | .repeated _ _ (some _) p => p.Productive text
  | .seq p q | .alt p q => p.Productive text ∧ q.Productive text
  | .repeated _ _ none p => p.Productive text ∧ ∀ i, ¬ p.Matches text i i

theorem productive_of_unrolled? {greedy : Bool} {min : Nat} {max : Option Nat}
    (h : unrolled? greedy p min max = some q) (hp : (repeated greedy min max p).Productive text) :
    q.Productive text := by
  unfold unrolled? at h
  split at h
  all_goals cases h
  · trivial
  · cases greedy <;> simp_all [optional, Productive]
  · exact ⟨hp, hp⟩
  · cases greedy <;> simp_all [optional, Productive]
  · exact ⟨hp.1, hp⟩

end Pattern

/-- The rounds behind a position come to parts of what is repeated in the next round, or further
on. -/
theorem Way.mem_round {greedy : Bool} (h : Way text (.repeated greedy 1 none p) i w j) :
    ∃ v k, Way text p i v k ∧ ∀ x ∈ w, x ∈ v.map (.shift 1) ∨ k ≤ x.pos := by
  cases h with
  | last h =>
      refine ⟨_, _, h, fun x hx => ?_⟩
      rcases List.mem_append.mp hx with hx | hx
      · exact .inl hx
      · obtain rfl := List.mem_singleton.mp hx
        exact .inr (Nat.le_refl _)
  | again hv hw =>
      refine ⟨_, _, hv, fun x hx => ?_⟩
      rcases List.mem_append.mp hx with hx | hx
      · exact .inl hx
      · rcases List.mem_cons.mp hx with rfl | hx
        · exact .inr (Nat.le_refl _)
        · exact .inr (hw.within x hx).2.1
  | unrolled hq => cases hq

/-- Where no repetition repeats the empty text, no way goes round in a circle. -/
theorem Way.isDirect (h : Way text p i w j) (hp : p.Productive text) (hi : i ≤ text.size) :
    IsDirect w := by
  induction h with
  | empty => exact List.nodup_nil
  | chars | look => exact List.nodup_singleton _
  | group _ ih => exact ih hp hi
  -- the parts of `q` lie before those of `p`, so no part of one is one of the other
  | seq hv hw ihv ihw => exact (isDirect_seq hw).mpr ⟨ihv hp.1 hi, ihw hp.2 (hv.le_size hi)⟩
  | first hv ih => exact (isDirect_first hv).mpr (ih hp.1 hi)
  | second hw ih => exact (isDirect_second hw).mpr (ih hp.2 hi)
  | last _ ih => exact isDirect_last.mpr (ih hp.1 hi)
  | @again _ p _ j k v w hv hw ihv ihw =>
      have hj := hv.le_size hi
      refine (isDirect_again (k := k)).mpr ⟨ihv hp.1 hi, ihw hp hj, fun s hs hs' => ?_⟩
      obtain ⟨v', l, hv', hround⟩ := hw.mem_round
      -- the next round gets on, since it is not of the empty text
      have hjl : j < l := by
        refine Nat.lt_of_le_of_ne hv'.le fun h => ?_
        subst h
        exact hp.2 j ⟨hj, v', hv'⟩
      obtain ⟨y, hy, rfl⟩ := List.mem_map.mp (raise_mem_stands.mp hs')
      have hle : y.pos ≤ j := (hv.within_stands hs).2.2
      rcases hround y hy with hy | hl
      · -- both rounds come to the same part: without what is between, a round of the empty text
        obtain ⟨z, hz, rfl⟩ := List.mem_map.mp hy
        rw [Visit.spot, Visit.shift, Nat.add_comm, succ_mem_stands, List.mem_map] at hs
        obtain ⟨x, hx, hxz⟩ := hs
        obtain ⟨u, hu⟩ := hv'.join hv hz hx hxz.symm
        exact hp.2 j ⟨hj, u, hu⟩
      · omega
  | unrolled hq _ ih => exact ih (Pattern.productive_of_unrolled? hq hp) hi

namespace Pattern

/-- Whether a pattern matches a stretch by the first of all ways that start there. -/
def FirstWay (text : Array Char) (p : Pattern) (i j : Nat) : Prop :=
  i ≤ text.size ∧ ∃ w, Way text p i w j ∧
    ∀ w' k, Way text p i w' k → w' = w ∨ choices w < choices w'

/-- Where no repetition repeats the empty text, the first match is the one of the first way. -/
theorem firstMatch_iff_of_productive (hp : p.Productive text) :
    p.FirstMatch text i j ↔ p.FirstWay text i j := by
  refine and_congr_right fun hi => ⟨?_, ?_⟩
  · rintro ⟨w, hw, -, hleast⟩
    exact ⟨w, hw, fun w' k hw' => hleast w' k hw' (hw'.isDirect hp hi)⟩
  · rintro ⟨w, hw, hleast⟩
    exact ⟨w, hw, hw.isDirect hp hi, fun w' k hw' _ => hleast w' k hw'⟩

end Pattern

end MailMerge.Regex
