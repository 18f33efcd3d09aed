import Std.Data.HashSet
import MailMerge.Regex.Program
import MailMerge.Unicode.Property

/-!
# Searching

A run of a program stands at an instruction and a position of the text. Of all runs from a start
that never stand twice at the same instruction and position, the search takes the first one that
accepts, in the order in which choices name their alternatives. It goes depth first and remembers
where it has been: a place that led nowhere once leads nowhere again, and a place on the way to the
current one would be met a second time. So each instruction is tried at most once for each position,
also across start positions, and the search ends.
-/

namespace MailMerge.Regex

/-! ### Conditions on places -/

/-- The character before a position. -/
def before? (text : Array Char) (pos : Nat) : Option Char :=
  if pos = 0 then none else text[pos - 1]?

/-- Whether a word goes on from one side of a place to the other, starts, or ends there. -/
def WordEdge.holds (before after : Bool) : WordEdge → Bool
  | .boundary => before != after
  | .inside => before == after
  | .starts => !before && after
  | .ends => before && !after
  | .startsHalf => !before
  | .endsHalf => !after

/-- The characters of words. -/
def wordSet (unicode : Bool) : CharSet :=
  if unicode then Unicode.word else
    ⟨[⟨'0'.toNat, '9'.toNat⟩, ⟨'A'.toNat, 'Z'.toNat⟩, .single '_'.toNat, ⟨'a'.toNat, 'z'.toNat⟩]⟩

/-- Whether a position of a text meets a condition. -/
def Look.holds (text : Array Char) (pos : Nat) : Look → Bool
  | .textStart => pos = 0
  | .textEnd => pos = text.size
  | .lineStart => pos = 0 || before? text pos = some '\n'
  | .lineEnd => pos = text.size || text[pos]? = some '\n'
  | .lineStartCrlf =>
    pos = 0 || before? text pos = some '\n' ||
      (before? text pos = some '\r' && text[pos]? ≠ some '\n')
  | .lineEndCrlf =>
    pos = text.size || text[pos]? = some '\r' ||
      (text[pos]? = some '\n' && before? text pos ≠ some '\r')
  | .word edge unicode =>
    let inWord (c : Option Char) : Bool := c.any (wordSet unicode).contains
    edge.holds (inWord (before? text pos)) (inWord text[pos]?)

/-! ### Runs

What a run has seen is a set of spots, and a spot that was seen is not followed again. As
there are only so many spots, that bounds the search. -/

/-- Where a run stands: an instruction and a position. -/
abbrev Spot := Nat × Nat

/-- Where the search has been. -/
abbrev Seen := Std.HashSet Spot

/-- The spots a run may go on to, the preferred one first. -/
def Instr.next (text : Array Char) (pos : Nat) : Instr → List Spot
  | .accept => []
  | .chars s next => if text[pos]?.any s.contains then [(next, pos + 1)] else []
  | .look l next => if l.holds text pos then [(next, pos)] else []
  | .split first second => [(first, pos), (second, pos)]

/-- The spots of a program on a text that were not seen yet. -/
private def unseen (prog : Program) (text : Array Char) (seen : Seen) : List Spot :=
  ((List.range prog.size).flatMap fun pc => (List.range (text.size + 1)).map (pc, ·)).filter
    fun spot => !seen.contains spot

private theorem length_filter_lt {α : Type} {p q : α → Bool} {xs : List α} {x : α} (hx : x ∈ xs)
    (hp : p x = true) (hq : q x = false) (hle : ∀ y, q y = true → p y = true) :
    (xs.filter q).length < (xs.filter p).length := by
  induction xs with
  | nil => simp at hx
  | cons y ys ih =>
    have hmono : (ys.filter q).length ≤ (ys.filter p).length := by
      clear ih hx
      induction ys with
      | nil => simp
      | cons z zs ih =>
        by_cases hz : q z
        · simp only [List.filter_cons, hz, hle z hz, if_true, List.length_cons]; omega
        · simp only [List.filter_cons, hz]
          by_cases hz' : p z
          · simp only [hz', if_true, List.length_cons, Bool.false_eq_true, if_false]; omega
          · simp [hz', ih]
    rcases List.mem_cons.mp hx with rfl | hm
    · simp only [List.filter_cons, hp, hq, if_true, List.length_cons, Bool.false_eq_true, if_false]
      omega
    · have := ih hm
      by_cases hz : q y
      · simp only [List.filter_cons, hz, hle y hz, if_true, List.length_cons]; omega
      · simp only [List.filter_cons, hz, Bool.false_eq_true, if_false]
        by_cases hz' : p y
        · simp only [hz', if_true, List.length_cons]; omega
        · simp only [hz', Bool.false_eq_true, if_false]; exact this

private theorem unseen_insert_lt {prog : Program} {text : Array Char} {seen : Seen} {spot : Spot}
    (hpc : spot.1 < prog.size) (hpos : spot.2 ≤ text.size) (hnew : seen.contains spot = false) :
    (unseen prog text (seen.insert spot)).length < (unseen prog text seen).length := by
  refine length_filter_lt (x := spot) ?_ (by simp [hnew]) (by simp) ?_
  · simp only [List.mem_flatMap, List.mem_range, List.mem_map]
    exact ⟨spot.1, hpc, spot.2, by omega, rfl⟩
  · intro y
    simp only [Std.HashSet.contains_insert, Bool.not_or, Bool.and_eq_true]
    exact And.right

/-- Follows runs depth first from the spots on a worklist. The answer is the position at which the
first run accepts, if one does, and all that was seen. -/
def explore (prog : Program) (text : Array Char) (work : List Spot) (seen : Seen) :
    Option Nat × Seen :=
  match work with
  | [] => (none, seen)
  | spot :: rest =>
    if h : spot.1 < prog.size ∧ spot.2 ≤ text.size ∧ seen.contains spot = false then
      have hpc := h.1
      match prog[spot.1] with
      | .accept => (some spot.2, seen)
      -- the spots that follow come before all others that wait: the search goes depth first
      | i => explore prog text (i.next text spot.2 ++ rest) (seen.insert spot)
    else explore prog text rest seen
termination_by ((unseen prog text seen).length, work.length)
decreasing_by
  · exact Prod.Lex.left _ _ (unseen_insert_lt h.1 h.2.1 h.2.2)
  · exact Prod.Lex.right _ (by simp)

/-! ### Matches -/

/-- A stretch of a text, from a position up to but not including another. -/
structure Match where
  start : Nat
  stop : Nat
  deriving DecidableEq, Repr

/-- The first match that starts at a position or later. -/
def firstMatch (prog : Program) (entry : Nat) (text : Array Char) (start : Nat) (seen : Seen) :
    Option Match :=
  if start ≤ text.size then
    match explore prog text [(entry, start)] seen with
    | (some stop, _) => some ⟨start, stop⟩
    -- what was seen from here led nowhere, and is not followed from later starts either
    | (none, seen) => firstMatch prog entry text (start + 1) seen
  else none
termination_by text.size + 1 - start

/-! ### Where matches lie -/

private theorem le_of_mem_next {i : Instr} {text : Array Char} {pos : Nat} {spot : Spot}
    (h : spot ∈ i.next text pos) : pos ≤ spot.2 := by
  cases i <;> simp only [Instr.next] at h
  · simp at h
  · split at h <;> simp_all
  · split at h <;> simp_all
  · simp only [List.mem_cons, List.not_mem_nil, or_false] at h
    rcases h with rfl | rfl <;> exact Nat.le_refl _

/-- Runs from spots at or behind a position accept at or behind it, within the text. -/
theorem explore_bounds {prog : Program} {text : Array Char} {k stop : Nat} :
    ∀ {work : List Spot} {seen : Seen}, (∀ spot ∈ work, k ≤ spot.2) →
      (explore prog text work seen).1 = some stop → k ≤ stop ∧ stop ≤ text.size := by
  intro work seen
  fun_induction explore prog text work seen with
  | case1 => simp
  | case2 seen spot rest h hacc =>
    intro hk hstop
    simp only [Option.some.injEq] at hstop
    exact ⟨hstop ▸ hk spot (by simp), hstop ▸ h.2.1⟩
  | case3 seen spot rest h hpc _ ih =>
    intro hk
    refine ih fun s hs => ?_
    rcases List.mem_append.mp hs with hn | hr
    · exact Nat.le_trans (hk spot (by simp)) (le_of_mem_next hn)
    · exact hk s (by simp [hr])
  | case4 seen spot rest h ih =>
    intro hk
    exact ih fun s hs => hk s (by simp [hs])

/-- A match starts at or behind the start of the search and ends within the text. -/
theorem firstMatch_bounds {prog : Program} {entry : Nat} {text : Array Char} {m : Match} :
    ∀ {start : Nat} {seen : Seen}, firstMatch prog entry text start seen = some m →
      start ≤ m.start ∧ m.start ≤ m.stop ∧ m.stop ≤ text.size := by
  intro start seen
  fun_induction firstMatch prog entry text start seen with
  | case1 start seen _ stop _ heq =>
    rintro ⟨⟩
    have := @explore_bounds prog text start stop [(entry, start)] seen (by simp) (by rw [heq])
    exact ⟨Nat.le_refl _, this⟩
  | case2 start seen _ _ _ ih =>
    intro h
    have := ih h
    omega
  | case3 => simp

end MailMerge.Regex
