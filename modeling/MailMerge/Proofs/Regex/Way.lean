import Mathlib.Data.List.Nodup
import MailMerge.Regex.Search

/-!
# Ways through a pattern

What a pattern matches, and which of its matches comes first, said by its syntax alone. A way leads
through a pattern from one position of a text to another: `Way text p i w j`. It is written down as
the list `w` of the parts it comes to, each at a position and with the choice made there. Choices
are counted from the preferred one:

* an alternative comes before those to the right of it,
* a greedy repetition would rather go on than stop, a lazy one rather stop than go on.

Of two ways the one comes first that makes the better choice where they part (`FirstMatch`).

Where a repetition repeats what matches the empty text, a way may come to the same part at the same
position again. It has then gone round in a circle, and could go round as often as it likes, so that
such ways are no candidates (`IsDirect`).
-/

namespace MailMerge.Regex

namespace Pattern

/-! ### Repetitions, written out

All repetitions but `p+` are shorthand, for nothing, for an optional repetition, or for a
round and the repetition that is left. So what is to be shown of patterns is shown of `p+`
and of the pattern that a repetition is written out as, although that one is no part of it. -/

/-- What a pattern matches, or nothing. -/
def optional (greedy : Bool) (p : Pattern) : Pattern :=
  if greedy then .alt p .empty else .alt .empty p

/-- A repetition with its first round written out; only `p+` is shorthand for nothing else.

    p{0} = (empty)    p{0,n+1} = (p p{0,n})?    p* = (p+)?    p{m+1,n+1} = p p{m,n}
-/
def unrolled? (greedy : Bool) (p : Pattern) : Nat → Option Nat → Option Pattern
  | 0, some 0 => some .empty
  | 0, some (max + 1) => some (optional greedy (.seq p (.repeated greedy 0 (some max) p)))
  | min + 1, some max => some (.seq p (.repeated greedy min (some (max - 1)) p))
  | 0, none => some (optional greedy (.repeated greedy 1 none p))
  | 1, none => none
  | min + 2, none => some (.seq p (.repeated greedy (min + 1) none p))

/-- The number of parts of a pattern: its sets and conditions, and the choices it offers. Rounds of
a repetition that are written out have parts of their own. -/
def parts : Pattern → Nat
  | .empty => 0
  | .chars _ | .look _ => 1
  | .group _ p => p.parts
  | .seq p q => q.parts + p.parts
  | .alt p q => q.parts + p.parts + 1
  | .repeated _ 0 none p => p.parts + 2
  | .repeated _ (min + 1) none p => (min + 1) * p.parts + 1
  | .repeated _ min (some max) p => min * p.parts + (max - min) * (p.parts + 1)

@[simp] theorem parts_optional (greedy : Bool) (p : Pattern) :
    (optional greedy p).parts = p.parts + 1 := by
  cases greedy <;> simp [optional, parts]

/-- A repetition has the parts of what it is written out as. -/
theorem parts_of_unrolled? {greedy : Bool} {p q : Pattern} {min : Nat} {max : Option Nat}
    (h : unrolled? greedy p min max = some q) :
    (Pattern.repeated greedy min max p).parts = q.parts := by
  unfold unrolled? at h
  split at h
  all_goals cases h
  · simp [parts]
  · next max =>
      simp only [parts_optional, parts, Nat.sub_zero, Nat.zero_mul, Nat.zero_add, Nat.succ_mul]
      omega
  · next min max =>
      simp only [parts, Nat.succ_mul, show max - (min + 1) = max - 1 - min by omega]
      omega
  · simp [parts]
  · next min =>
      simp only [parts, Nat.succ_mul]
      omega

/-- Induction on a pattern in which repetitions are written out. -/
theorem unrolled_induction {motive : Pattern → Prop} (empty : motive .empty)
    (chars : ∀ s, motive (.chars s)) (look : ∀ l, motive (.look l))
    (group : ∀ n p, motive p → motive (.group n p))
    (seq : ∀ p q, motive p → motive q → motive (.seq p q))
    (alt : ∀ p q, motive p → motive q → motive (.alt p q))
    (plus : ∀ greedy p, motive p → motive (.repeated greedy 1 none p))
    (unrolled : ∀ greedy p min max q, unrolled? greedy p min max = some q → motive q →
      motive (.repeated greedy min max p)) (p : Pattern) : motive p := by
  induction p with
  | empty => exact empty
  | chars s => exact chars s
  | look l => exact look l
  | group n p ih => exact group n p ih
  | seq p q ihp ihq => exact seq p q ihp ihq
  | alt p q ihp ihq => exact alt p q ihp ihq
  -- the induction is on the pattern, and for a repetition on the rounds it has
  | repeated greedy min max p ih =>
      have hoptional (q : Pattern) (hq : motive q) : motive (optional greedy q) := by
        cases greedy with
        | true => exact alt q .empty hq empty
        | false => exact alt .empty q empty hq
      induction min generalizing max with
      | zero =>
          cases max with
          | none => exact unrolled _ _ _ _ _ rfl (hoptional _ (plus greedy p ih))
          | some max =>
              induction max with
              | zero => exact unrolled _ _ _ _ _ rfl empty
              | succ max ihmax => exact unrolled _ _ _ _ _ rfl (hoptional _ (seq _ _ ih ihmax))
      | succ min ihmin =>
          cases max with
          | some max => exact unrolled _ _ _ _ _ rfl (seq _ _ ih (ihmin _))
          | none =>
              -- `p+` itself is not written out
              cases min with
              | zero => exact plus greedy p ih
              | succ min => exact unrolled _ _ _ _ _ rfl (seq _ _ ih (ihmin _))

end Pattern

/-! ### Ways

A part is told by a number, so that parts that look the same are different. The numbers are
those of the instructions that will be made of the parts, which makes a way comparable with
a path through them. -/

/-- A part that a way comes to, the position it stands at then, and the choice that it makes there.
Where there is nothing to choose, the choice is 0. -/
structure Visit where
  part : Nat
  pos : Nat
  choice : Nat
  deriving DecidableEq, Repr

namespace Visit

/-- Where a way stands at a visit. -/
def spot (v : Visit) : Spot := (v.part, v.pos)

/-- The same visit where parts are counted from another one on. -/
def shift (n : Nat) (v : Visit) : Visit := { v with part := n + v.part }

@[simp] theorem shift_comp_shift (m n : Nat) : shift m ∘ shift n = shift (m + n) := by
  funext v
  simp [shift, Nat.add_assoc]

theorem shift_injective (n : Nat) : Function.Injective (shift n) := by
  rintro ⟨part, pos, choice⟩ ⟨part', pos', choice'⟩ h
  simpa [shift] using h

@[simp] theorem choice_shift (n : Nat) (v : Visit) : (v.shift n).choice = v.choice := rfl

end Visit

/-- The choice to go on with a repetition: the first for a greedy one, the second for a lazy one. -/
def goingOn (greedy : Bool) : Nat := if greedy then 0 else 1

/-- The choice to stop a repetition. -/
def stopping (greedy : Bool) : Nat := if greedy then 1 else 0

/-- Leading through a pattern from a position of a text to another. Parts are counted from the back
of a pattern, the choice between alternatives after both of them and the choice to go on before what
is repeated. -/
inductive Way (text : Array Char) : Pattern → Nat → List Visit → Nat → Prop where
  | empty {i : Nat} : Way text .empty i [] i
  | chars {s : CharClass} {i : Nat} : text[i]?.any s.contains = true →
      Way text (.chars s) i [⟨0, i, 0⟩] (i + 1)
  | look {l : Look} {i : Nat} : l.holds text i = true → Way text (.look l) i [⟨0, i, 0⟩] i
  | group {n : Nat} {p : Pattern} {i j : Nat} {w : List Visit} :
      Way text p i w j → Way text (.group n p) i w j
  | seq {p q : Pattern} {i j k : Nat} {v w : List Visit} :
      Way text p i v j → Way text q j w k →
      Way text (.seq p q) i (v.map (.shift q.parts) ++ w) k
  | first {p q : Pattern} {i j : Nat} {w : List Visit} : Way text p i w j →
      Way text (.alt p q) i (⟨q.parts + p.parts, i, 0⟩ :: w.map (.shift q.parts)) j
  | second {p q : Pattern} {i j : Nat} {w : List Visit} : Way text q i w j →
      Way text (.alt p q) i (⟨q.parts + p.parts, i, 1⟩ :: w) j
  | last {greedy : Bool} {p : Pattern} {i j : Nat} {w : List Visit} : Way text p i w j →
      Way text (.repeated greedy 1 none p) i (w.map (.shift 1) ++ [⟨0, j, stopping greedy⟩]) j
  | again {greedy : Bool} {p : Pattern} {i j k : Nat} {v w : List Visit} : Way text p i v j →
      Way text (.repeated greedy 1 none p) j w k →
      Way text (.repeated greedy 1 none p) i (v.map (.shift 1) ++ ⟨0, j, goingOn greedy⟩ :: w) k
  | unrolled {greedy : Bool} {min : Nat} {max : Option Nat} {p q : Pattern} {i j : Nat}
      {w : List Visit} : Pattern.unrolled? greedy p min max = some q → Way text q i w j →
      Way text (.repeated greedy min max p) i w j

/-- A way never goes back. -/
theorem Way.le {text : Array Char} {p : Pattern} {i j : Nat} {w : List Visit}
    (h : Way text p i w j) : i ≤ j := by
  induction h with
  | empty | look => exact Nat.le_refl _
  | chars => exact Nat.le_succ _
  | group _ ih | first _ ih | second _ ih | last _ ih | unrolled _ _ ih => exact ih
  | seq _ _ ihv ihw | again _ _ ihv ihw => exact Nat.le_trans ihv ihw

theorem lt_size_of_any {text : Array Char} {i : Nat} {f : Char → Bool}
    (h : text[i]?.any f = true) : i < text.size := by
  by_contra hlt
  rw [Array.getElem?_eq_none (by omega)] at h
  simp at h

/-- A way stays within the text. -/
theorem Way.le_size {text : Array Char} {p : Pattern} {i j : Nat} {w : List Visit}
    (h : Way text p i w j) (hi : i ≤ text.size) : j ≤ text.size := by
  induction h with
  | empty | look => exact hi
  | chars hc => exact lt_size_of_any hc
  | group _ ih | first _ ih | second _ ih | last _ ih | unrolled _ _ ih => exact ih hi
  | seq _ _ ihv ihw | again _ _ ihv ihw => exact ihw (ihv hi)

/-- Whether a way comes to no part twice at the same position. -/
def IsDirect (w : List Visit) : Prop := (w.map Visit.spot).Nodup

theorem isDirect_map_shift {n : Nat} {w : List Visit} :
    IsDirect (w.map (.shift n)) ↔ IsDirect w := by
  have hspot : Visit.spot ∘ Visit.shift n = (fun s : Spot => (n + s.1, s.2)) ∘ Visit.spot := rfl
  -- adding to the part keeps different spots different
  rw [IsDirect, IsDirect, List.map_map, hspot, ← List.map_map]
  refine List.nodup_map_iff fun s t h => ?_
  simp only [Prod.mk.injEq, Nat.add_left_cancel_iff] at h
  exact Prod.ext h.1 h.2

/-- The choices of a way, from the first to the last. -/
def choices (w : List Visit) : List Nat := w.map Visit.choice

@[simp] theorem choices_cons (v : Visit) (w : List Visit) :
    choices (v :: w) = v.choice :: choices w := rfl

@[simp] theorem choices_map_shift (n : Nat) (w : List Visit) :
    choices (w.map (.shift n)) = choices w := by
  simp [choices, Function.comp_def]

namespace Pattern

/-- Whether a pattern matches a stretch of a text. -/
def Matches (text : Array Char) (p : Pattern) (i j : Nat) : Prop :=
  i ≤ text.size ∧ ∃ w, Way text p i w j

/-- Whether a pattern matches a stretch of a text, and does so before any other stretch that starts
there: some direct way leads through it, and every other direct way makes a choice that comes later
where they part. -/
def FirstMatch (text : Array Char) (p : Pattern) (i j : Nat) : Prop :=
  i ≤ text.size ∧ ∃ w, Way text p i w j ∧ IsDirect w ∧
    ∀ w' k, Way text p i w' k → IsDirect w' → w' = w ∨ choices w < choices w'

variable {text : Array Char} {p : Pattern} {i j : Nat}

theorem Matches.le (h : p.Matches text i j) : i ≤ j := by
  obtain ⟨-, w, hw⟩ := h
  exact hw.le

theorem Matches.le_size (h : p.Matches text i j) : j ≤ text.size := by
  obtain ⟨hi, w, hw⟩ := h
  exact hw.le_size hi

theorem FirstMatch.matches (h : p.FirstMatch text i j) : p.Matches text i j := by
  obtain ⟨hi, w, hw, -⟩ := h
  exact ⟨hi, w, hw⟩

end Pattern

end MailMerge.Regex
