import MailMerge.Proofs.Regex.Way

/-!
# Patterns with the same ways

Sequences may be nested and written out in any way, and repetitions may be written out: the same
ways lead through them (`SameWays`), so that they match the same and in the same order.
-/

namespace MailMerge.Regex.Pattern

variable {text : Array Char} {p q r p' q' : Pattern} {i j : Nat}

/-- Whether the same ways lead through two patterns, with as many parts. -/
structure SameWays (p q : Pattern) : Prop where
  parts : p.parts = q.parts
  way_iff {text : Array Char} {i j : Nat} {w : List Visit} : Way text p i w j ↔ Way text q i w j

namespace SameWays

theorem refl (p : Pattern) : SameWays p p := ⟨rfl, Iff.rfl⟩

theorem symm (h : SameWays p q) : SameWays q p := ⟨h.parts.symm, h.way_iff.symm⟩

theorem trans (h : SameWays p q) (h' : SameWays q r) : SameWays p r :=
  ⟨h.parts.trans h'.parts, h.way_iff.trans h'.way_iff⟩

instance : Trans SameWays SameWays SameWays := ⟨trans⟩

theorem matches_iff (h : SameWays p q) : p.Matches text i j ↔ q.Matches text i j := by
  simp only [Matches, h.way_iff]

theorem seq (hp : SameWays p p') (hq : SameWays q q') : SameWays (.seq p q) (.seq p' q') := by
  refine ⟨by rw [Pattern.parts, Pattern.parts, hp.parts, hq.parts], fun {_ _ _ _} => ⟨?_, ?_⟩⟩
  · intro h
    cases h with
    | seq hv hw =>
        rw [hq.parts]
        exact .seq (hp.way_iff.mp hv) (hq.way_iff.mp hw)
  · intro h
    cases h with
    | seq hv hw =>
        rw [← hq.parts]
        exact .seq (hp.way_iff.mpr hv) (hq.way_iff.mpr hw)

end SameWays

theorem sameWays_group (n : Nat) (p : Pattern) : SameWays (.group n p) p := by
  refine ⟨rfl, fun {_ _ _ _} => ⟨fun h => ?_, .group⟩⟩
  cases h with
  | group h => exact h

theorem sameWays_unrolled {greedy : Bool} {min : Nat} {max : Option Nat}
    (h : unrolled? greedy p min max = some q) : SameWays (.repeated greedy min max p) q := by
  refine ⟨parts_of_unrolled? h, fun {_ _ _ _} => ⟨fun hway => ?_, .unrolled h⟩⟩
  cases hway with
  | last | again => cases h
  | unrolled hq hway =>
      cases h.symm.trans hq
      exact hway

theorem sameWays_chars {s t : CharClass} (h : ∀ c, s.contains c = t.contains c) :
    SameWays (.chars s) (.chars t) := by
  have hfun : s.contains = t.contains := funext h
  refine ⟨rfl, fun {_ _ _ _} => ⟨fun hway => ?_, fun hway => ?_⟩⟩
  · cases hway with
    | chars hc => exact .chars (hfun ▸ hc)
  · cases hway with
    | chars hc => exact .chars (hfun ▸ hc)

/-! ### Sequences

The parts of a sequence are counted from its end, so bringing it into another form moves no
part: the visits of the pieces are shifted by the same numbers, in one step or in two. That
is why all forms of a sequence have the very same ways, and not only ways that mirror each
other. -/

theorem sameWays_empty_seq (p : Pattern) : SameWays (.seq .empty p) p := by
  refine ⟨rfl, fun {_ _ _ _} => ⟨fun h => ?_, fun h => .seq .empty h⟩⟩
  cases h with
  | seq hv hw =>
      cases hv
      exact hw

theorem sameWays_seq_empty (p : Pattern) : SameWays (.seq p .empty) p := by
  -- nothing follows, so nothing is shifted
  have hshift : Visit.shift 0 = id := by
    funext x
    simp [Visit.shift]
  refine ⟨Nat.zero_add _, fun {_ _ w _} => ⟨fun h => ?_, fun h => ?_⟩⟩
  · cases h with
    | seq hv hw =>
        cases hw
        simpa [parts, hshift] using hv
  · have hseq := h.seq .empty
    simpa [parts, hshift] using hseq

theorem sameWays_seq_assoc (p q r : Pattern) :
    SameWays (.seq (.seq p q) r) (.seq p (.seq q r)) := by
  -- shifting by the parts of `r` and before by those of `q` is shifting by both
  have hmap (u v w : List Visit) :
      (u.map (Visit.shift q.parts) ++ v).map (Visit.shift r.parts) ++ w =
        u.map (Visit.shift (seq q r).parts) ++ (v.map (Visit.shift r.parts) ++ w) := by
    simp [parts]
  refine ⟨by simp only [parts, Nat.add_assoc], fun {_ _ _ _} => ⟨fun h => ?_, fun h => ?_⟩⟩
  · cases h with
    | seq huv hw =>
        cases huv with
        | seq hu hv =>
            rw [hmap]
            exact .seq hu (.seq hv hw)
  · cases h with
    | seq hu hvw =>
        cases hvw with
        | seq hv hw =>
            rw [← hmap]
            exact .seq (.seq hu hv) hw

theorem sameWays_ofItems_cons (p : Pattern) (ps : List Pattern) :
    SameWays (ofItems (p :: ps)) (.seq p (ofItems ps)) := by
  cases ps with
  | nil => exact (sameWays_seq_empty p).symm
  | cons => exact .refl _

theorem sameWays_ofItems_append (ps qs : List Pattern) :
    SameWays (ofItems (ps ++ qs)) (.seq (ofItems ps) (ofItems qs)) := by
  induction ps with
  | nil => exact (sameWays_empty_seq _).symm
  | cons p ps ih =>
      calc
        SameWays (ofItems (p :: (ps ++ qs))) (.seq p (ofItems (ps ++ qs))) :=
          sameWays_ofItems_cons p _
        SameWays _ (.seq p (.seq (ofItems ps) (ofItems qs))) := .seq (.refl p) ih
        -- the members of both lists in one sequence, brought into the form of the first list
        SameWays _ (.seq (.seq p (ofItems ps)) (ofItems qs)) := (sameWays_seq_assoc _ _ _).symm
        SameWays _ (.seq (ofItems (p :: ps)) (ofItems qs)) :=
          .seq (sameWays_ofItems_cons p ps).symm (.refl _)

/-- A pattern is the sequence of its members. -/
theorem sameWays_items (p : Pattern) : SameWays (ofItems p.items) p := by
  induction p with
  | seq p q ihp ihq => exact (sameWays_ofItems_append _ _).trans (.seq ihp ihq)
  | _ => exact .refl _

/-- Sequences in sequences are written out. -/
theorem sameWays_concat (ps : List Pattern) : SameWays (concat ps) (ofItems ps) := by
  induction ps with
  | nil => exact .refl _
  | cons p ps ih =>
      calc
        SameWays (concat (p :: ps)) (.seq (ofItems p.items) (concat ps)) :=
          sameWays_ofItems_append _ _
        SameWays _ (.seq p (ofItems ps)) := .seq (sameWays_items p) ih
        SameWays _ (ofItems (p :: ps)) := (sameWays_ofItems_cons p ps).symm

/-- A single round is no repetition. -/
theorem sameWays_once (greedy : Bool) (p : Pattern) : SameWays (.repeated greedy 1 (some 1) p) p :=
  calc
    SameWays _ (.seq p (.repeated greedy 0 (some 0) p)) := sameWays_unrolled rfl
    SameWays _ (.seq p .empty) := .seq (.refl p) (sameWays_unrolled rfl)
    SameWays _ p := sameWays_seq_empty p

end MailMerge.Regex.Pattern
