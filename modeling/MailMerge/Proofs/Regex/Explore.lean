import Mathlib.Data.Set.Insert
import MailMerge.Proofs.Regex.Way

/-!
# What the search finds

`explore` goes depth first and never comes back to a spot that it has seen. The trails that avoid a
set of spots and do not stand on a spot twice (`Trail`) are what it is measured by: the answer is
the end of the first trail from the first spot of the worklist that has one (`finds_of_explore`),
and without an answer everything seen is closed (`Explored`), so that no trail leads on from there.
Hence what was seen from earlier starts can be left out from later ones (`firstMatch_eq_some`).
-/

namespace MailMerge.Regex

variable {prog : Program} {text : Array Char} {U V : Set Spot} {s s' : Spot} {work : List Spot}
  {w : List Visit} {j : Nat}

/-! ### Trails

A trail carries the spots it must avoid along, and adds each spot it leaves. So it stops by
itself, whatever loops the program has, and it says what the search does between one visit
and the next, where the spots seen only grow. -/

/-- A run from a spot to an instruction that accepts at `j`, by the visits on the way. It stands on
no spot of `V` and on no spot twice. -/
inductive Trail (prog : Program) (text : Array Char) :
    Set Spot → Spot → List Visit → Nat → Prop where
  | accept {V : Set Spot} {s : Spot} : s ∉ V → s.2 ≤ text.size → prog[s.1]? = some .accept →
      Trail prog text V s [] s.2
  | step {V : Set Spot} {s s' : Spot} {i : Instr} {k j : Nat} {w : List Visit} : s ∉ V →
      s.2 ≤ text.size → prog[s.1]? = some i → (i.next text s.2)[k]? = some s' →
      Trail prog text (insert s V) s' w j → Trail prog text V s (⟨s.1, s.2, k⟩ :: w) j

theorem Trail.not_mem (h : Trail prog text V s w j) : s ∉ V := by
  cases h <;> assumption

theorem Trail.mono (h : Trail prog text V s w j) (hUV : U ⊆ V) : Trail prog text U s w j := by
  induction h generalizing U with
  | accept hs hpos hacc => exact .accept (fun h => hs (hUV h)) hpos hacc
  | step hs hpos hi hk _ ih =>
      exact .step (fun h => hs (hUV h)) hpos hi hk (ih (Set.insert_subset_insert hUV))

/-- A trail stays away from where no trail leads on. -/
theorem Trail.avoid (h : Trail prog text V s w j) (hU : ∀ x ∈ U, ∀ v k, ¬ Trail prog text V x v k) :
    Trail prog text (U ∪ V) s w j := by
  induction h with
  | accept hs hpos hacc =>
      -- a trail that starts in `U` would be one that leads on from there
      have hsU := fun h => hU _ h _ _ (.accept hs hpos hacc)
      exact .accept (fun h => h.elim hsU hs) hpos hacc
  | step hs hpos hi hk htrail ih =>
      have hsU := fun h => hU _ h _ _ (.step hs hpos hi hk htrail)
      refine .step (fun h => h.elim hsU hs) hpos hi hk ?_
      rw [← Set.union_insert]
      exact ih fun x hx v k hv => hU x hx v k (hv.mono (Set.subset_insert _ _))

/-- The first of all trails from a spot. -/
def IsFirstTrail (prog : Program) (text : Array Char) (V : Set Spot) (s : Spot) (w : List Visit)
    (j : Nat) : Prop :=
  Trail prog text V s w j ∧
    ∀ w' k, Trail prog text V s w' k → w' = w ∨ choices w < choices w'

/-- Whether the first spot of a list that has a trail has its first trail to `j`. -/
inductive Finds (prog : Program) (text : Array Char) (V : Set Spot) : List Spot → Nat → Prop where
  | here {s : Spot} {rest : List Spot} {w : List Visit} {j : Nat} :
      IsFirstTrail prog text V s w j → Finds prog text V (s :: rest) j
  | there {s : Spot} {rest : List Spot} {j : Nat} : (∀ w k, ¬ Trail prog text V s w k) →
      Finds prog text V rest j → Finds prog text V (s :: rest) j

/-- Which of two parts of a worklist leads to the answer. -/
theorem Finds.append {xs ys : List Spot} (h : Finds prog text V (xs ++ ys) j) :
    (∃ (k : Nat) (x : Spot) (w : List Visit), xs[k]? = some x ∧ IsFirstTrail prog text V x w j ∧
      ∀ l < k, ∀ y, xs[l]? = some y → ∀ v n, ¬ Trail prog text V y v n) ∨
    (∀ x ∈ xs, ∀ v n, ¬ Trail prog text V x v n) ∧ Finds prog text V ys j := by
  induction xs with
  | nil => exact .inr ⟨by simp, h⟩
  | cons x xs ih =>
      cases h with
      -- the first spot has a trail
      | here hfirst => exact .inl ⟨0, x, _, rfl, hfirst, by simp⟩
      | there hnone hrest =>
          rcases ih hrest with ⟨k, y, w, hk, hfirst, hbefore⟩ | ⟨hxs, hys⟩
          · refine .inl ⟨k + 1, y, w, by simpa using hk, hfirst, fun l hl z hz => ?_⟩
            cases l with
            -- the spots before it are the first one and those before it in the rest
            | zero => simpa [← Option.some.inj hz] using hnone
            | succ l => exact hbefore l (by omega) z (by simpa using hz)
          · exact .inr ⟨List.forall_mem_cons.mpr ⟨hnone, hxs⟩, hys⟩

/-! ### The search

The search keeps what it has seen when it turns back. A trail from a spot that comes later
need not avoid what was seen in vain on the way, since nothing leads on from there; so both
kinds of avoiding give the same trails, and the answer is the first of them. -/

namespace Seen

/-- The spots that were seen. -/
def spots (seen : Seen) : Set Spot := {s | seen.contains s = true}

@[simp] theorem spots_empty : spots ∅ = ∅ := by
  ext s
  simp [spots]

@[simp] theorem spots_insert (seen : Seen) (s : Spot) :
    spots (seen.insert s) = insert s (spots seen) := by
  ext x
  simp only [spots, Set.mem_ofPred_eq, Set.mem_insert_iff, Std.HashSet.contains_insert,
    Bool.or_eq_true, beq_iff_eq, @eq_comm _ s]

theorem not_mem_spots {seen : Seen} : s ∉ spots seen ↔ seen.contains s = false := by
  simp [spots]

end Seen

/-- Whether a spot is an instruction of the program and a position of the text. -/
def IsSpot (prog : Program) (text : Array Char) (s : Spot) : Prop :=
  s.1 < prog.size ∧ s.2 ≤ text.size

theorem Trail.isSpot (h : Trail prog text V s w j) : IsSpot prog text s := by
  cases h with
  | accept _ hpos hacc => exact ⟨(Array.getElem?_eq_some_iff.mp hacc).1, hpos⟩
  | step _ hpos hi => exact ⟨(Array.getElem?_eq_some_iff.mp hi).1, hpos⟩

/-- A spot is where a trail comes to first if it is neither seen nor accepts: then it goes on from
one of the next spots. -/
theorem Finds.of_next {i : Instr} {rest : List Spot} (hs : s ∉ V) (hpos : s.2 ≤ text.size)
    (hi : prog[s.1]? = some i) (hacc : i ≠ .accept)
    (h : Finds prog text (insert s V) (i.next text s.2 ++ rest) j) :
    Finds prog text V (s :: rest) j := by
  have hstep {w k} (h : Trail prog text V s w k) : ∃ n x v, w = ⟨s.1, s.2, n⟩ :: v ∧
      (i.next text s.2)[n]? = some x ∧ Trail prog text (insert s V) x v k := by
    cases h with
    | accept _ _ hi' => exact absurd (Option.some.inj (hi.symm.trans hi')) hacc
    | step _ _ hi' hk htrail =>
        cases hi.symm.trans hi'
        exact ⟨_, _, _, rfl, hk, htrail⟩
  rcases h.append with ⟨k, x, w, hk, ⟨htrail, hleast⟩, hbefore⟩ | ⟨hnone, hrest⟩
  -- a trail from `s` begins with a choice: before the `k`-th there is none, at it `w` is the
  -- first, and those behind it come later
  · refine .here ⟨.step hs hpos hi hk htrail, fun w' n hw' => ?_⟩
    obtain ⟨l, y, v, rfl, hl, hv⟩ := hstep hw'
    simp only [choices_cons, List.cons.injEq, List.cons_lt_cons_iff, Visit.mk.injEq, true_and]
    rcases Nat.lt_trichotomy l k with hlt | rfl | hgt
    · exact absurd hv (hbefore l hlt y hl v n)
    · cases hk.symm.trans hl
      simpa using hleast v n hv
    · exact .inr (.inl hgt)
  · -- no trail leads on from `s`, so the others need not avoid it
    have hdead : ∀ w k, ¬ Trail prog text V s w k := by
      intro w k hw
      obtain ⟨n, x, v, -, hn, hv⟩ := hstep hw
      exact hnone x (List.mem_of_getElem? hn) v k hv
    have hsame {x v k} : Trail prog text (insert s V) x v k ↔ Trail prog text V x v k := by
      refine ⟨fun h => h.mono (Set.subset_insert _ _), fun h => ?_⟩
      rw [Set.insert_eq]
      exact h.avoid (by simpa using hdead)
    refine .there hdead ?_
    -- what is left is a statement about the rest of the list alone
    clear hnone h
    induction hrest with
    | here hfirst => exact .here (by simpa only [IsFirstTrail, hsame] using hfirst)
    | there hno _ ih => exact .there (by simpa only [hsame] using hno) ih

/-- An answer of the search is the end of the first trail. -/
theorem finds_of_explore {seen : Seen} (h : (explore prog text work seen).1 = some j) :
    Finds prog text seen.spots work j := by
  fun_induction explore prog text work seen with
  | case1 => simp at h
  -- the spot accepts: its trail is empty, and no other one starts there
  | case2 seen s rest hspot hpc hacc =>
      cases h
      refine .here ⟨.accept (Seen.not_mem_spots.mpr hspot.2.2) hspot.2.1 ?_, fun w k hw => ?_⟩
      · rw [Array.getElem?_eq_getElem hpc, hacc]
      · cases hw with
        | accept => exact .inl rfl
        | step _ _ hi hk =>
            rw [Array.getElem?_eq_getElem hpc, hacc] at hi
            cases hi
            simp [Instr.next] at hk
  | case3 seen s rest hspot hpc hacc ih =>
      refine .of_next (Seen.not_mem_spots.mpr hspot.2.2) hspot.2.1
        (Array.getElem?_eq_getElem hpc) hacc ?_
      rw [← Seen.spots_insert]
      exact ih h
  -- seen before or no spot at all, so it has no trail
  | case4 seen s rest hspot ih =>
      refine .there (fun w k hw => hspot ?_) (ih h)
      exact ⟨hw.isSpot.1, hw.isSpot.2, Seen.not_mem_spots.mp hw.not_mem⟩

/-- Whether from the spots of a set one gets to no others than those of the set and of a worklist,
and none of them accepts. -/
def Explored (prog : Program) (text : Array Char) (V : Set Spot) (work : List Spot) : Prop :=
  ∀ s ∈ V, ∀ i, prog[s.1]? = some i →
    i ≠ .accept ∧ ∀ x ∈ i.next text s.2, IsSpot prog text x → x ∈ V ∨ x ∈ work

/-- Visiting a spot that does not accept puts the next ones on the worklist. -/
theorem Explored.visit {i : Instr} (h : Explored prog text V (s :: work)) (hi : prog[s.1]? = some i)
    (hacc : i ≠ .accept) : Explored prog text (insert s V) (i.next text s.2 ++ work) := by
  rintro x (rfl | hx) i' hi'
  -- the spot that was visited now, then those that were seen before
  · cases hi.symm.trans hi'
    exact ⟨hacc, fun y hy _ => .inr (List.mem_append_left _ hy)⟩
  · refine ⟨(h x hx i' hi').1, fun y hy hspot => ?_⟩
    rcases (h x hx i' hi').2 y hy hspot with hy | hy
    · exact .inl (Set.mem_insert_of_mem _ hy)
    · rcases List.mem_cons.mp hy with rfl | hy
      · exact .inl (Set.mem_insert _ _)
      · exact .inr (List.mem_append_right _ hy)

/-- A spot that was seen before can be passed over. -/
theorem Explored.pass (h : Explored prog text V (s :: work)) (hs : IsSpot prog text s → s ∈ V) :
    Explored prog text V work := by
  refine fun x hx i hi => ⟨(h x hx i hi).1, fun y hy hspot => ?_⟩
  rcases (h x hx i hi).2 y hy hspot with hy | hy
  · exact .inl hy
  · rcases List.mem_cons.mp hy with rfl | hy
    · exact .inl (hs hspot)
    · exact .inr hy

/-- What is closed can be searched for any worklist. -/
theorem Explored.any (h : Explored prog text V []) : Explored prog text V work :=
  fun x hx i hi => ⟨(h x hx i hi).1, fun y hy hspot =>
    .inl (((h x hx i hi).2 y hy hspot).resolve_right List.not_mem_nil)⟩

/-- No trail leads on from a closed set. -/
theorem Explored.not_trail (hV : Explored prog text V []) (hs : s ∈ V) :
    ¬ Trail prog text U s w j := by
  intro h
  induction h with
  | accept _ _ hacc => exact (hV _ hs _ hacc).1 rfl
  | step _ _ hi hk htrail ih =>
      refine ih (((hV _ hs _ hi).2 _ (List.mem_of_getElem? hk) htrail.isSpot).resolve_right ?_)
      exact List.not_mem_nil

theorem spots_subset_explore (work : List Spot) (seen : Seen) :
    seen.spots ⊆ (explore prog text work seen).2.spots := by
  fun_induction explore prog text work seen with
  | case1 | case2 => exact subset_rfl
  | case3 seen s rest hspot hpc hacc ih =>
      rw [Seen.spots_insert] at ih
      exact (Set.subset_insert _ _).trans ih
  | case4 seen s rest hspot ih => exact ih

/-- What the search has seen without finding an answer is closed, and the worklist is in it. -/
theorem explored_of_explore {seen : Seen} (h : (explore prog text work seen).1 = none)
    (hseen : Explored prog text seen.spots work) :
    Explored prog text (explore prog text work seen).2.spots [] ∧
      ∀ s ∈ work, IsSpot prog text s → s ∈ (explore prog text work seen).2.spots := by
  fun_induction explore prog text work seen with
  | case1 seen => exact ⟨hseen, by simp⟩
  | case2 => simp at h
  | case3 seen s rest hspot hpc hacc ih =>
      -- the next spots were put in front of the worklist, which is still in it
      rw [Seen.spots_insert] at ih
      obtain ⟨hclosed, hwork⟩ := ih h (hseen.visit (Array.getElem?_eq_getElem hpc) hacc)
      refine ⟨hclosed, List.forall_mem_cons.mpr ⟨fun _ => ?_, fun x hx => ?_⟩⟩
      · apply spots_subset_explore
        rw [Seen.spots_insert]
        exact Set.mem_insert _ _
      · exact hwork x (List.mem_append_right _ hx)
  | case4 seen s rest hspot ih =>
      have hs (h : IsSpot prog text s) : s ∈ seen.spots := by
        by_contra hs
        exact hspot ⟨h.1, h.2, Seen.not_mem_spots.mp hs⟩
      obtain ⟨hclosed, hwork⟩ := ih h (hseen.pass hs)
      exact ⟨hclosed, List.forall_mem_cons.mpr ⟨fun h => spots_subset_explore _ _ (hs h), hwork⟩⟩

/-! ### The first match

The search starts anew at each position but keeps what it has seen. That is closed when a
start has found nothing, so from the next start the trails that avoid it are all trails. -/

variable {entry start : Nat} {m : Match} {seen : Seen}

/-- Where the search finds nothing, no trail starts. -/
theorem not_trail_of_explore (h : (explore prog text [s] seen).1 = none)
    (hseen : Explored prog text seen.spots []) : ¬ Trail prog text ∅ s w j := by
  intro htrail
  obtain ⟨hclosed, hs⟩ := explored_of_explore h hseen.any
  exact hclosed.not_trail (hs s List.mem_cons_self htrail.isSpot) htrail

/-- What was seen from earlier starts does not hide the first trail. -/
theorem isFirstTrail_of_explore (h : (explore prog text [s] seen).1 = some j)
    (hseen : Explored prog text seen.spots []) : ∃ w, IsFirstTrail prog text ∅ s w j := by
  have hsame {v k} : Trail prog text seen.spots s v k ↔ Trail prog text ∅ s v k := by
    refine ⟨fun h => h.mono (Set.empty_subset _), fun h => ?_⟩
    rw [← Set.union_empty seen.spots]
    exact h.avoid fun x hx v k => hseen.not_trail hx
  cases finds_of_explore h with
  | here hfirst => exact ⟨_, by simpa only [IsFirstTrail, hsame] using hfirst⟩
  | there _ hnil => cases hnil

/-- The search finds the first start that has a trail, and from there the first trail. -/
theorem firstMatch_eq_some (hseen : Explored prog text seen.spots [])
    (h : firstMatch prog entry text start seen = some m) :
    start ≤ m.start ∧ (∃ w, IsFirstTrail prog text ∅ (entry, m.start) w m.stop) ∧
      ∀ k, start ≤ k → k < m.start → ∀ w j, ¬ Trail prog text ∅ (entry, k) w j := by
  fun_induction firstMatch prog entry text start seen with
  | case1 start seen hstart stop _ heq =>
      cases h
      refine ⟨Nat.le_refl _, isFirstTrail_of_explore (by rw [heq]) hseen, fun k hk hlt => ?_⟩
      exact absurd hlt (Nat.not_lt.mpr hk)
  | case2 start seen hstart seen' heq ih =>
      have hnone : (explore prog text [(entry, start)] seen).1 = none := by rw [heq]
      have hseen' := (explored_of_explore hnone hseen.any).1
      rw [heq] at hseen'
      obtain ⟨hle, hfirst, hbefore⟩ := ih hseen' h
      refine ⟨by omega, hfirst, fun k hk hlt => ?_⟩
      rcases Nat.eq_or_lt_of_le hk with rfl | hk
      · exact fun w j => not_trail_of_explore hnone hseen
      · exact hbefore k hk hlt
  | case3 => simp at h

/-- Where the search finds nothing, no start has a trail. -/
theorem firstMatch_eq_none (hseen : Explored prog text seen.spots [])
    (h : firstMatch prog entry text start seen = none) :
    ∀ k, start ≤ k → ∀ w j, ¬ Trail prog text ∅ (entry, k) w j := by
  fun_induction firstMatch prog entry text start seen with
  | case1 => simp at h
  | case2 start seen hstart seen' heq ih =>
      have hnone : (explore prog text [(entry, start)] seen).1 = none := by rw [heq]
      have hseen' := (explored_of_explore hnone hseen.any).1
      rw [heq] at hseen'
      intro k hk
      rcases Nat.eq_or_lt_of_le hk with rfl | hk
      -- this start has found nothing; the others are searched with what it has seen
      · exact fun w j => not_trail_of_explore hnone hseen
      · exact ih hseen' h k hk
  | case3 start seen hstart =>
      intro k hk w j htrail
      exact hstart (Nat.le_trans hk htrail.isSpot.2)

end MailMerge.Regex
