import Mathlib.Data.Set.Image
import MailMerge.Proofs.Regex.Compiled

/-!
# Where ways stand

The spots of a way are those of its pieces (`stands_append`, `stands_first`, `stands_round`), with
the end of one piece where the next one starts (`Way.entry_mem`). A way is direct if its pieces are
(`isDirect_seq`, `isDirect_first`); only the rounds of a repetition share their parts, so that they
must have no spot in common (`isDirect_again`).
-/

namespace MailMerge.Regex

variable {text : Array Char} {p q : Pattern} {s : Spot} {x y : Visit} {v w : List Visit}
  {n i j k l c : Nat}

/-- A way comes to parts of its pattern, at positions between its ends. -/
theorem Way.within (h : Way text p i w j) :
    ∀ x ∈ w, x.part < p.parts ∧ i ≤ x.pos ∧ x.pos ≤ j := by
  induction h with
  | empty => simp
  | chars | look => simp [Pattern.parts]
  | group _ ih => exact ih
  | seq hv hw ihv ihw =>
      have hle := hv.le
      have hle' := hw.le
      simp only [List.forall_mem_append, List.forall_mem_map, Pattern.parts, Visit.shift]
      refine ⟨fun x hx => ?_, fun x hx => ?_⟩
      · have := ihv x hx
        omega
      · have := ihw x hx
        omega
  | first h ih =>
      have hle := h.le
      simp only [List.forall_mem_cons, List.forall_mem_map, Pattern.parts, Visit.shift]
      refine ⟨by omega, fun x hx => ?_⟩
      have := ih x hx
      omega
  | second h ih =>
      have hle := h.le
      simp only [List.forall_mem_cons, Pattern.parts]
      refine ⟨by omega, fun x hx => ?_⟩
      have := ih x hx
      omega
  | last h ih =>
      have hle := h.le
      simp only [List.forall_mem_append, List.forall_mem_map, List.forall_mem_singleton, parts_plus,
        Visit.shift]
      refine ⟨fun x hx => ?_, by omega⟩
      have := ih x hx
      omega
  | again hv hw ihv ihw =>
      have hle := hv.le
      have hle' := hw.le
      rw [parts_plus] at ihw ⊢
      simp only [List.forall_mem_append, List.forall_mem_map, List.forall_mem_cons, Visit.shift]
      refine ⟨fun x hx => ?_, by omega, fun x hx => ?_⟩
      · have := ihv x hx
        omega
      · have := ihw x hx
        omega
  | unrolled hq _ ih => rwa [Pattern.parts_of_unrolled? hq]

/-! ### The spots of a way

A spot is a part with a position. A way stands on the spots of its visits and on the one
behind the pattern where it ends, and that last one is the first spot of what follows. Parts
are raised by the parts of the piece that follows in the pattern, which keeps the end of one
piece and the start of the next the same spot. -/

/-- Where a way that ends at `j` stands. As in the program of a pattern, parts are counted from 1,
and 0 is what follows the pattern. -/
def stands (w : List Visit) (j : Nat) : Set Spot :=
  {s | (∃ x ∈ w, (x.part + 1, x.pos) = s) ∨ s = (0, j)}

/-- A spot where the parts, and what follows them, are put in front of `n` others. -/
def raise (n : Nat) (s : Spot) : Spot := (n + s.1, s.2)

/-- A spot where the parts are put in front of `n` others, and the same as before follows. -/
def raiseParts (n : Nat) (s : Spot) : Spot := if s.1 = 0 then s else raise n s

theorem end_mem_stands : (0, j) ∈ stands w j := .inr rfl

theorem succ_mem_stands : (n + 1, i) ∈ stands w j ↔ (n, i) ∈ w.map Visit.spot := by
  simp [stands, Visit.spot]

theorem raise_mem_stands : raise 1 s ∈ stands w j ↔ s ∈ w.map Visit.spot := by
  rw [raise, Nat.add_comm, succ_mem_stands]

/-- Behind its pattern a way stands only at its end. -/
theorem eq_of_mem_stands (hs : s ∈ stands w j) (h : s.1 = 0) : s = (0, j) := by
  rcases hs with ⟨x, hx, rfl⟩ | rfl
  · cases h
  · rfl

theorem stands_nil : stands [] j = {(0, j)} := by
  simp [stands]

theorem stands_cons : stands (x :: w) j = insert (x.part + 1, x.pos) (stands w j) := by
  ext s
  simp [stands, or_assoc, eq_comm]

theorem stands_first : stands (x :: v.map (.shift n)) j =
    insert (x.part + 1, x.pos) (raiseParts n '' stands v j) := by
  ext s
  simp [stands, raiseParts, raise, Visit.shift, or_and_right, exists_or, @eq_comm _ s, or_assoc,
    ← Nat.add_assoc]

theorem stands_round : stands (v.map (.shift 1) ++ ⟨0, j, c⟩ :: w) k =
    raise 1 '' stands v j ∪ stands w k := by
  ext s
  simp [stands, raise, Visit.shift, or_and_right, exists_or, @eq_comm _ s, or_assoc,
    ← Nat.add_assoc]

theorem mem_stands_append (hs : s ∈ stands w j) : s ∈ stands (v ++ w) j :=
  hs.imp (fun ⟨x, hx, h⟩ => ⟨x, List.mem_append_right _ hx, h⟩) id

theorem stands_append (hw : (n, j) ∈ stands w k) :
    stands (v.map (.shift n) ++ w) k = raise n '' stands v j ∪ stands w k := by
  refine Set.Subset.antisymm ?_ (Set.union_subset ?_ fun _ => mem_stands_append)
  -- the spots of the visits, and then the end
  · rintro _ (⟨x, hx, rfl⟩ | rfl)
    · rcases List.mem_append.mp hx with hx | hx
      · obtain ⟨y, hy, rfl⟩ := List.mem_map.mp hx
        exact .inl ⟨_, .inl ⟨y, hy, rfl⟩, rfl⟩
      · exact .inr (.inl ⟨x, hx, rfl⟩)
    · exact .inr end_mem_stands
  · rintro _ ⟨_, ⟨x, hx, rfl⟩ | rfl, rfl⟩
    · exact .inl ⟨_, List.mem_append_left _ (List.mem_map_of_mem hx), rfl⟩
    -- the end of the first piece is raised to the start of the second
    · exact mem_stands_append hw

theorem Way.within_stands (h : Way text p i w j) (hs : s ∈ stands w j) :
    s.1 ≤ p.parts ∧ i ≤ s.2 ∧ s.2 ≤ j := by
  rcases hs with ⟨x, hx, rfl⟩ | rfl
  · have := h.within x hx
    exact ⟨this.1, this.2⟩
  · exact ⟨Nat.zero_le _, h.le, Nat.le_refl _⟩

/-- Every way through a pattern starts at the same part, the last one in the count, or at the end
if there is none. -/
theorem Way.entry_mem (h : Way text p i w j) : (p.parts, i) ∈ stands w j := by
  induction h with
  | empty => exact end_mem_stands
  | chars | look => exact .inl ⟨_, List.mem_singleton_self _, rfl⟩
  | group _ ih => exact ih
  -- the second piece starts where the first one ends, so the raised spots go on without a gap
  | seq _ _ ihv ihw =>
      rw [stands_append ihw]
      exact .inl ⟨_, ihv, rfl⟩
  | first | second =>
      rw [stands_cons]
      exact .inl rfl
  | last _ ih | again _ _ ih =>
      rw [stands_round, parts_plus, Nat.add_comm]
      exact .inl ⟨_, ih, rfl⟩
  | unrolled hq _ ih => rwa [Pattern.parts_of_unrolled? hq]

/-! ### Direct ways by their pieces

The parts of two pieces of a pattern have different numbers, unless both are rounds of one
repetition. So the pieces of a direct way are looked at one by one, and rounds must be kept
apart by the positions as well. -/

theorem isDirect_append : IsDirect (v ++ w) ↔
    IsDirect v ∧ IsDirect w ∧ ∀ x ∈ v, ∀ y ∈ w, x.spot ≠ y.spot := by
  simp only [IsDirect, List.map_append, List.nodup_append, List.forall_mem_map]

theorem isDirect_cons : IsDirect (x :: w) ↔ (∀ y ∈ w, x.spot ≠ y.spot) ∧ IsDirect w := by
  simp only [IsDirect, List.map_cons, List.nodup_cons, List.mem_map, not_exists, not_and, ne_comm,
    ne_eq]

theorem spot_ne_of_part_ne (h : x.part ≠ y.part) : x.spot ≠ y.spot :=
  fun hspot => h (congrArg Prod.fst hspot)

theorem isDirect_seq (hw : Way text q j w k) :
    IsDirect (v.map (.shift q.parts) ++ w) ↔ IsDirect v ∧ IsDirect w := by
  rw [isDirect_append, isDirect_map_shift, ← and_assoc, and_iff_left]
  rw [List.forall_mem_map]
  intro x hx y hy
  -- the parts of `q` lie below those that were raised by their number
  have := (hw.within y hy).1
  apply spot_ne_of_part_ne
  simp only [Visit.shift]
  omega

theorem isDirect_first (hv : Way text p i v j) :
    IsDirect (⟨n + p.parts, l, c⟩ :: v.map (.shift n)) ↔ IsDirect v := by
  rw [isDirect_cons, isDirect_map_shift, and_iff_right]
  rw [List.forall_mem_map]
  intro x hx
  have := (hv.within x hx).1
  apply spot_ne_of_part_ne
  simp only [Visit.shift]
  omega

theorem isDirect_second (hw : Way text q i w j) :
    IsDirect (⟨q.parts + n, l, c⟩ :: w) ↔ IsDirect w := by
  rw [isDirect_cons, and_iff_right]
  intro x hx
  have := (hw.within x hx).1
  apply spot_ne_of_part_ne
  dsimp only
  omega

theorem isDirect_last : IsDirect (v.map (.shift 1) ++ [⟨0, j, c⟩]) ↔ IsDirect v := by
  rw [isDirect_append, isDirect_map_shift, and_iff_left]
  refine ⟨List.nodup_singleton _, ?_⟩
  rw [List.forall_mem_map]
  intro x hx y hy
  obtain rfl := List.mem_singleton.mp hy
  apply spot_ne_of_part_ne
  simp only [Visit.shift]
  omega

/-- A round and those behind it are direct together if each is and they have no spot in common. -/
theorem isDirect_again : IsDirect (v.map (.shift 1) ++ ⟨0, j, c⟩ :: w) ↔
    IsDirect v ∧ IsDirect w ∧ ∀ s ∈ stands v j, raise 1 s ∉ stands w k := by
  rw [List.append_cons, isDirect_append, isDirect_last]
  refine and_congr_right fun _ => and_congr_right fun _ => ?_
  simp only [raise_mem_stands, List.mem_map, not_exists, not_and]
  constructor
  -- the spot of a part, or the choice behind the round
  · rintro h s (⟨x, hx, rfl⟩ | rfl) y hy hspot
    · refine h (x.shift 1) (List.mem_append_left _ (List.mem_map_of_mem hx)) y hy ?_
      rw [hspot, Visit.spot, Visit.shift, Nat.add_comm]
    · exact h _ (List.mem_append_right _ (List.mem_singleton_self _)) y hy hspot.symm
  · rintro h x hx y hy hspot
    rcases List.mem_append.mp hx with hx | hx
    · obtain ⟨z, hz, rfl⟩ := List.mem_map.mp hx
      refine h _ (.inl ⟨z, hz, rfl⟩) y hy ?_
      rw [← hspot, Visit.spot, Visit.shift, Nat.add_comm]
    · obtain rfl := List.mem_singleton.mp hx
      exact h _ end_mem_stands y hy hspot.symm

end MailMerge.Regex
