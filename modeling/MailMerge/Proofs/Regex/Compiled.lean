import MailMerge.Proofs.Regex.Explore

/-!
# Programs and ways

The program for a pattern takes up a stretch of instructions, one for each part of the pattern
(`Compiled`, `compile_adds`). A path through these instructions is a way through the pattern: every
way is a path (`Way.path`), and every path that leaves the stretch leaves it by a way
(`Compiled.exists_way`). Where a path goes round in a circle, the circle can be left out
(`Path.exists_direct`).
-/

namespace MailMerge.Regex

/-! ### Layout

Code is put down from the end of a pattern to its start, and what is put down is never
changed but for the choice of a loop. So each part lies in a stretch of its own, and for a
part to lie there only the instructions of that stretch matter. -/

/-- Where the parts of a pattern lie in a program: from `base` on, entered at `entry` and left for
`next`. -/
inductive Compiled (prog : Program) : Pattern → (entry next base : Nat) → Prop where
  | empty {next base : Nat} : Compiled prog .empty next next base
  | chars {s : CharClass} {next base : Nat} : prog[base]? = some (.chars s.toCharSet next) →
      Compiled prog (.chars s) base next base
  | look {l : Look} {next base : Nat} : prog[base]? = some (.look l next) →
      Compiled prog (.look l) base next base
  | group {n : Nat} {p : Pattern} {entry next base : Nat} : Compiled prog p entry next base →
      Compiled prog (.group n p) entry next base
  | seq {p q : Pattern} {entry mid next base : Nat} : Compiled prog q mid next base →
      Compiled prog p entry mid (base + q.parts) → Compiled prog (.seq p q) entry next base
  | alt {p q : Pattern} {first second next base : Nat} : Compiled prog q second next base →
      Compiled prog p first next (base + q.parts) →
      prog[base + (q.parts + p.parts)]? = some (.split first second) →
      Compiled prog (.alt p q) (base + (q.parts + p.parts)) next base
  | plus {greedy : Bool} {p : Pattern} {entry next base : Nat} :
      prog[base]? = some (Program.choice greedy entry next) →
      Compiled prog p entry base (base + 1) →
      Compiled prog (.repeated greedy 1 none p) entry next base
  | unrolled {greedy : Bool} {min : Nat} {max : Option Nat} {p q : Pattern}
      {entry next base : Nat} :
      Pattern.unrolled? greedy p min max = some q → Compiled prog q entry next base →
      Compiled prog (.repeated greedy min max p) entry next base

variable {prog prog' : Program} {text : Array Char} {p q : Pattern} {entry next base : Nat}

theorem parts_plus (greedy : Bool) (p : Pattern) :
    (Pattern.repeated greedy 1 none p).parts = p.parts + 1 := by
  simp [Pattern.parts]

/-- Only the instructions of the parts matter. -/
theorem Compiled.congr (h : Compiled prog p entry next base)
    (hsame : ∀ k, base ≤ k → k < base + p.parts → prog'[k]? = prog[k]?) :
    Compiled prog' p entry next base := by
  induction h with
  | empty => exact .empty
  | chars hi => exact .chars (by rwa [hsame _ (Nat.le_refl _) (by simp [Pattern.parts])])
  | look hi => exact .look (by rwa [hsame _ (Nat.le_refl _) (by simp [Pattern.parts])])
  | group _ ih => exact .group (ih hsame)
  | seq _ _ ihq ihp =>
      simp only [Pattern.parts] at hsame
      exact .seq (ihq fun k hk hlt => hsame k hk (by omega))
        (ihp fun k hk hlt => hsame k (by omega) (by omega))
  | alt _ _ hi ihq ihp =>
      simp only [Pattern.parts] at hsame
      exact .alt (ihq fun k hk hlt => hsame k hk (by omega))
        (ihp fun k hk hlt => hsame k (by omega) (by omega))
        (by rwa [hsame _ (by omega) (by omega)])
  | plus hi _ ih =>
      rw [parts_plus] at hsame
      exact .plus (by rwa [hsame _ (Nat.le_refl _) (by omega)])
        (ih fun k hk hlt => hsame k (by omega) (by omega))
  | unrolled hq _ ih =>
      rw [Pattern.parts_of_unrolled? hq] at hsame
      exact .unrolled hq (ih hsame)

/-- What compiling a pattern adds to a program. -/
structure Adds (p : Pattern) (next : Nat) (prog : Program) (entry : Nat) (prog' : Program) :
    Prop where
  size : prog'.size = prog.size + p.parts
  old : ∀ k < prog.size, prog'[k]? = prog[k]?
  compiled : Compiled prog' p entry next prog.size

variable {prog₁ prog₂ : Program} {mid first second : Nat}

theorem Adds.emit {i : Instr} (hparts : p.parts = 1)
    (hp : ∀ prog : Program, prog[base]? = some i → Compiled prog p base next base)
    (hbase : base = prog.size) : Adds p next prog base (prog.push i) := by
  subst hbase
  refine ⟨by simp [hparts], fun k hk => ?_, hp _ (by simp)⟩
  rw [Array.getElem?_push, if_neg (by omega)]

theorem Adds.seq (hq : Adds q next prog mid prog₁) (hp : Adds p mid prog₁ entry prog₂) :
    Adds (.seq p q) next prog entry prog₂ := by
  have hsize := hq.size
  refine ⟨?_, fun k hk => ?_, .seq (hq.compiled.congr fun k hk hlt => ?_) ?_⟩
  · rw [hp.size, hsize, Pattern.parts]
    omega
  · rw [hp.old k (by omega), hq.old k hk]
  · exact hp.old k (by omega)
  · rw [← hsize]
    exact hp.compiled

theorem Adds.alt (hq : Adds q next prog second prog₁) (hp : Adds p next prog₁ first prog₂) :
    Adds (.alt p q) next prog prog₂.size (prog₂.push (.split first second)) := by
  have hsize : prog₂.size = prog.size + (q.parts + p.parts) := by
    rw [hp.size, hq.size]
    omega
  have hpush {k : Nat} (hk : k < prog₂.size) :
      (prog₂.push (.split first second))[k]? = prog₂[k]? := by
    rw [Array.getElem?_push, if_neg (by omega)]
  have hfirst : Compiled (prog₂.push (.split first second)) p first next (prog.size + q.parts) := by
    rw [← hq.size]
    exact hp.compiled.congr fun k hk hlt => hpush (by rw [hp.size]; omega)
  refine ⟨?_, fun k hk => ?_, ?_⟩
  · rw [Array.size_push, hsize, Pattern.parts]
    omega
  · rw [hpush (by omega), hp.old k (by rw [hq.size]; omega), hq.old k hk]
  · rw [hsize]
    -- the second alternative lies before the first, and the choice behind both
    refine .alt (hq.compiled.congr fun k hk hlt => ?_) hfirst ?_
    · rw [hpush (by omega), hp.old k (by rw [hq.size]; omega)]
    · rw [← hsize, Array.getElem?_push_size]

/-- A loop keeps a place free for its choice and fills it in at last. -/
theorem Adds.plus {greedy : Bool} {i : Instr} (hp : Adds p prog.size (prog.push i) entry prog₁) :
    Adds (.repeated greedy 1 none p) next prog entry
      (prog₁.setIfInBounds prog.size (Program.choice greedy entry next)) := by
  have hsize : prog₁.size = prog.size + 1 + p.parts := by rw [hp.size, Array.size_push]
  have hset {k : Nat} (hk : k ≠ prog.size) :
      (prog₁.setIfInBounds prog.size (Program.choice greedy entry next))[k]? = prog₁[k]? :=
    Array.getElem?_setIfInBounds_ne hk.symm
  refine ⟨?_, fun k hk => ?_, .plus ?_ ?_⟩
  · rw [Array.size_setIfInBounds, hsize, parts_plus]
    omega
  · rw [hset (by omega), hp.old k (by rw [Array.size_push]; omega), Array.getElem?_push,
      if_neg (by omega)]
  · exact Array.getElem?_setIfInBounds_self_of_lt (by omega)
  · rw [← Array.size_push i]
    exact hp.compiled.congr fun k hk hlt => hset (by rw [Array.size_push] at hk; omega)

/-- A repetition is compiled as what it is written out as. -/
theorem compile_of_unrolled? {greedy : Bool} {min : Nat} {max : Option Nat}
    (h : Pattern.unrolled? greedy p min max = some q) :
    (Pattern.repeated greedy min max p).compile = q.compile := by
  unfold Pattern.unrolled? at h
  split at h
  all_goals cases h
  · rfl
  · cases greedy <;> rfl
  -- of the copies that may be left out one is taken, so there is one less
  · next min max =>
      have hsub : max - (min + 1) = max - 1 - min := by omega
      simp only [Pattern.compile, Part.repeated, Part.copies, hsub]
  · cases greedy <;> rfl
  · rfl

theorem compile_adds (p : Pattern) (next : Nat) (prog : Program) :
    Adds p next prog (p.compile next prog).1 (p.compile next prog).2 := by
  induction p using Pattern.unrolled_induction generalizing next prog with
  | empty => exact ⟨rfl, fun _ _ => rfl, .empty⟩
  | chars s => exact .emit rfl (fun _ => .chars) rfl
  | look l => exact .emit rfl (fun _ => .look) rfl
  | group n p ih => exact ⟨(ih next prog).size, (ih next prog).old, .group (ih next prog).compiled⟩
  | seq p q ihp ihq => exact (ihq next prog).seq (ihp _ _)
  | alt p q ihp ihq => exact (ihq next prog).alt (ihp _ _)
  | plus greedy p ih => exact (ih prog.size (prog.push .accept)).plus
  | unrolled greedy p min max q hq ih =>
      obtain ⟨hsize, hold, hcode⟩ := ih next prog
      rw [compile_of_unrolled? hq]
      exact ⟨by rw [Pattern.parts_of_unrolled? hq, hsize], hold, .unrolled hq hcode⟩

/-! ### Paths

Paths are told by the same visits as ways, with the parts counted from the start of the
program. So a way through a pattern is a path through its stretch if its parts are counted
on by as many as lie before. -/

/-- Going through a program from one spot to another, by the visits on the way. -/
inductive Path (prog : Program) (text : Array Char) : Spot → List Visit → Spot → Prop where
  | nil {s : Spot} : Path prog text s [] s
  | cons {s s' t : Spot} {i : Instr} {k : Nat} {w : List Visit} : prog[s.1]? = some i →
      (i.next text s.2)[k]? = some s' → Path prog text s' w t →
      Path prog text s (⟨s.1, s.2, k⟩ :: w) t

variable {s t u : Spot} {v w : List Visit} {i j : Nat}

theorem Path.append (hv : Path prog text s v t) (hw : Path prog text t w u) :
    Path prog text s (v ++ w) u := by
  induction hv with
  | nil => exact hw
  | cons hi hk _ ih => exact .cons hi hk (ih hw)

/-- The choices say where a path ends. -/
theorem Path.unique (ht : Path prog text s w t) (hu : Path prog text s w u) : t = u := by
  induction ht with
  | nil =>
      cases hu
      rfl
  | cons hi hk _ ih =>
      cases hu with
      | cons hi' hk' hu =>
          cases hi.symm.trans hi'
          cases hk.symm.trans hk'
          exact ih hu

theorem next_choice (greedy : Bool) (entry next pos : Nat) :
    ((Program.choice greedy entry next).next text pos)[goingOn greedy]? = some (entry, pos) ∧
      ((Program.choice greedy entry next).next text pos)[stopping greedy]? = some (next, pos) := by
  cases greedy <;> exact ⟨rfl, rfl⟩

/-- A way through a pattern is a path through its part of the program. -/
theorem Way.path (h : Way text p i w j) (hp : Compiled prog p entry next base) :
    Path prog text (entry, i) (w.map (.shift base)) (next, j) := by
  induction h generalizing entry next base with
  | empty =>
      cases hp
      exact .nil
  | chars hc =>
      cases hp with
      | chars hi => exact .cons hi (by simp [Instr.next, hc]) .nil
  | look hl =>
      cases hp with
      | look hi => exact .cons hi (by simp [Instr.next, hl]) .nil
  | group _ ih =>
      cases hp with
      | group hp => exact ih hp
  | seq _ _ ihv ihw =>
      cases hp with
      | seq hq hp =>
          rw [List.map_append, List.map_map, Visit.shift_comp_shift]
          exact (ihv hp).append (ihw hq)
  | first _ ih =>
      cases hp with
      | alt hq hp hi =>
          rw [List.map_cons, List.map_map, Visit.shift_comp_shift]
          exact .cons hi rfl (ih hp)
  | second _ ih =>
      cases hp with
      | alt hq hp hi => exact .cons hi rfl (ih hq)
  | last _ ih =>
      cases hp with
      | plus hi hp =>
          rw [List.map_append, List.map_map, Visit.shift_comp_shift]
          exact (ih hp).append (.cons hi (next_choice _ _ _ _).2 .nil)
      | unrolled hq => cases hq
  | again _ _ ihv ihw =>
      cases hp with
      | plus hi hp =>
          rw [List.map_append, List.map_map, Visit.shift_comp_shift]
          exact (ihv hp).append (.cons hi (next_choice _ _ _ _).1 (ihw (.plus hi hp)))
      | unrolled hq => cases hq
  | unrolled hq _ ih =>
      cases hp with
      | plus => cases hq
      | unrolled hq' hp =>
          cases hq.symm.trans hq'
          exact ih hp

/-- The first step of a path that goes on from an instruction. -/
theorem Path.exists_step {ins : Instr} {n : Nat} (h : Path prog text (n, i) w t)
    (hi : prog[n]? = some ins) (ht : t.1 ≠ n) :
    ∃ k s u, w = ⟨n, i, k⟩ :: u ∧ (ins.next text i)[k]? = some s ∧ Path prog text s u t := by
  cases h with
  | nil => exact absurd rfl ht
  | cons hi' hk hu =>
      cases hi.symm.trans hi'
      exact ⟨_, _, _, rfl, hk, hu⟩

theorem eq_of_next_if {c : Prop} [Decidable c] {k : Nat}
    (h : (if c then [s] else [])[k]? = some t) : c ∧ k = 0 ∧ t = s := by
  split at h
  · next hc =>
      cases k with
      | zero => exact ⟨hc, rfl, (Option.some.inj h).symm⟩
      | succ k => simp at h
  · simp at h

theorem eq_of_next_choice {greedy : Bool} {pos k : Nat}
    (h : ((Program.choice greedy entry next).next text pos)[k]? = some s) :
    k = goingOn greedy ∧ s = (entry, pos) ∨ k = stopping greedy ∧ s = (next, pos) := by
  cases greedy <;> simp only [Program.choice, Instr.next] at h
  all_goals
    rcases k with _ | _ | k
    · simp_all [goingOn, stopping]
    · simp_all [goingOn, stopping]
    · simp at h

/-- Whether an instruction is none of those that a pattern's parts take up. -/
def Outside (base : Nat) (p : Pattern) (n : Nat) : Prop := n < base ∨ base + p.parts ≤ n

/-- A path that leaves the part of the program for a pattern leaves it by a way. -/
theorem Compiled.exists_way (hp : Compiled prog p entry next base)
    (h : Path prog text (entry, i) w t) (ht : Outside base p t.1) :
    ∃ v u j, w = v.map (.shift base) ++ u ∧ Way text p i v j ∧ Path prog text (next, j) u t := by
  induction hp generalizing i w with
  | empty => exact ⟨[], w, i, rfl, .empty, h⟩
  | chars hi =>
      simp only [Outside, Pattern.parts] at ht
      obtain ⟨k, s, u, rfl, hk, hu⟩ := h.exists_step hi (by omega)
      obtain ⟨hc, rfl, rfl⟩ := eq_of_next_if hk
      exact ⟨[⟨0, i, 0⟩], u, i + 1, rfl, .chars hc, hu⟩
  | look hi =>
      simp only [Outside, Pattern.parts] at ht
      obtain ⟨k, s, u, rfl, hk, hu⟩ := h.exists_step hi (by omega)
      obtain ⟨hl, rfl, rfl⟩ := eq_of_next_if hk
      exact ⟨[⟨0, i, 0⟩], u, i, rfl, .look hl, hu⟩
  | group _ ih =>
      obtain ⟨v, u, j, rfl, hv, hu⟩ := ih h ht
      exact ⟨v, u, j, rfl, .group hv, hu⟩
  -- the path goes through the stretch of `p` and leaves it for that of `q`
  | @seq p q _ _ _ base _ _ ihq ihp =>
      simp only [Outside, Pattern.parts] at ht ihp ihq
      obtain ⟨v, u, j, rfl, hv, hu⟩ := ihp h (by omega)
      obtain ⟨v', u', k, rfl, hv', hu'⟩ := ihq hu (by omega)
      refine ⟨v.map (.shift q.parts) ++ v', u', k, ?_, .seq hv hv', hu'⟩
      simp
  | @alt p q first second next base _ _ hi ihq ihp =>
      simp only [Outside, Pattern.parts] at ht ihp ihq
      obtain ⟨k, s, u, rfl, hk, hu⟩ := h.exists_step hi (by omega)
      -- the choice is the first or the second, and a split offers no third
      rcases k with _ | _ | k
      · cases hk
        obtain ⟨v, u, j, rfl, hv, hu⟩ := ihp hu (by omega)
        refine ⟨⟨q.parts + p.parts, i, 0⟩ :: v.map (.shift q.parts), u, j, ?_, .first hv, hu⟩
        simp [Visit.shift]
      · cases hk
        obtain ⟨v, u, j, rfl, hv, hu⟩ := ihq hu (by omega)
        exact ⟨⟨q.parts + p.parts, i, 1⟩ :: v, u, j, rfl, .second hv, hu⟩
      · simp [Instr.next] at hk
  | @plus greedy p entry next base hi _ ih =>
      rw [Outside, parts_plus] at ht
      -- each round takes at least the visit to the choice behind it
      induction hn : w.length using Nat.strongRecOn generalizing i w with
      | _ n ihn =>
          obtain ⟨v, u, j, rfl, hv, hu⟩ := ih h (by simp only [Outside]; omega)
          obtain ⟨k, s, u, rfl, hk, hu⟩ := hu.exists_step hi (by omega)
          -- behind a round the path goes on with another one, or leaves
          rcases eq_of_next_choice hk with ⟨rfl, rfl⟩ | ⟨rfl, rfl⟩
          · obtain ⟨v', u', k, rfl, hv', hu'⟩ := ihn u.length (by simp at hn; omega) hu rfl
            refine ⟨v.map (.shift 1) ++ ⟨0, j, goingOn greedy⟩ :: v', u', k, ?_, .again hv hv', hu'⟩
            simp [Visit.shift]
          · refine ⟨v.map (.shift 1) ++ [⟨0, j, stopping greedy⟩], u, j, ?_, .last hv, hu⟩
            simp [Visit.shift]
  | unrolled hq _ ih =>
      rw [Outside, Pattern.parts_of_unrolled? hq] at ht
      obtain ⟨v, u, j, rfl, hv, hu⟩ := ih h ht
      exact ⟨v, u, j, rfl, .unrolled hq hv, hu⟩

/-! ### Circles

A path that comes to a spot twice can go on from the second time at once. Taken from its
end, a path is direct behind each visit, and a visit to a spot that comes again is left out
with all up to there. -/

theorem Path.exists_from_visit {x : Spot} (h : Path prog text s w t) (hx : x ∈ w.map Visit.spot) :
    ∃ v, v <:+ w ∧ Path prog text x v t := by
  induction h with
  | nil => simp at hx
  | @cons s _ _ _ _ w hi hk hw ih =>
      rcases List.mem_cons.mp hx with rfl | hx
      · exact ⟨_, List.suffix_rfl, .cons hi hk hw⟩
      · obtain ⟨v, hv, hpath⟩ := ih hx
        exact ⟨v, hv.trans (List.suffix_cons _ _), hpath⟩

/-- Circles can be left out. -/
theorem Path.exists_direct (h : Path prog text s w t) : ∃ v, IsDirect v ∧ Path prog text s v t := by
  induction h with
  | nil => exact ⟨[], List.nodup_nil, .nil⟩
  | @cons s _ _ _ k _ hi hk _ ih =>
      obtain ⟨v, hv, hpath⟩ := ih
      by_cases hs : s ∈ v.map Visit.spot
      · obtain ⟨u, hu, hpath⟩ := hpath.exists_from_visit hs
        exact ⟨u, hv.sublist (hu.sublist.map _), hpath⟩
      · exact ⟨⟨s.1, s.2, k⟩ :: v, List.nodup_cons.mpr ⟨hs, hv⟩, .cons hi hk hpath⟩

end MailMerge.Regex
