import MailMerge.Regex.Replace
import MailMerge.Proofs.Regex.Compiled

/-!
# Leftmost-first search

The search for a compiled pattern finds its first match from a position on (`find_eq_some_iff`): the
leftmost start at which the pattern matches, and from there the first direct way. It gives up only
where nothing matches any more (`find_eq_none_iff`).

The trails of the program for a pattern are its direct ways (`trail_program_iff`). So the first
trail, which is what the search finds, is the first direct way.
-/

namespace MailMerge.Regex

variable {prog : Program} {text : Array Char} {p q : Pattern} {entry next base : Nat}
  {V : Set Spot} {s t : Spot} {v w : List Visit} {i j k : Nat}

/-! ### Trails and paths

A trail is a path through the program that stands on no spot twice and avoids what it has
to. The induction from left to right follows the trail; back it follows the path, whose end
is fixed before, so that only its last spot can accept. -/

theorem le_size_of_mem_next {ins : Instr} (h : t ∈ ins.next text s.2) (hs : s.2 ≤ text.size) :
    t.2 ≤ text.size := by
  cases ins with
  | accept => simp [Instr.next] at h
  | chars cs next =>
      simp only [Instr.next] at h
      split at h
      · next hc =>
          obtain rfl := List.mem_singleton.mp h
          exact lt_size_of_any hc
      · simp at h
  | look l next =>
      simp only [Instr.next] at h
      split at h
      · obtain rfl := List.mem_singleton.mp h
        exact hs
      · simp at h
  | split first second =>
      simp only [Instr.next, List.mem_cons, List.not_mem_nil, or_false] at h
      rcases h with rfl | rfl <;> exact hs

/-- A trail is a direct path to an instruction that accepts. -/
theorem trail_iff : Trail prog text V s w j ↔ s.2 ≤ text.size ∧ ∃ n, prog[n]? = some .accept ∧
    Path prog text s w (n, j) ∧ IsDirect w ∧ (∀ x ∈ w.map Visit.spot, x ∉ V) ∧ (n, j) ∉ V := by
  constructor
  · intro h
    induction h with
    | @accept V s hs hpos hacc =>
        exact ⟨hpos, s.1, hacc, .nil, List.nodup_nil, by simp, hs⟩
    | @step V s s' i k j w hs hpos hi hk _ ih =>
        obtain ⟨-, n, hacc, hpath, hdirect, havoid, hend⟩ := ih
        -- the rest avoids `s`, which makes the whole direct
        have hs' : s ∉ w.map Visit.spot := fun h => havoid s h (Set.mem_insert _ _)
        refine ⟨hpos, n, hacc, .cons hi hk hpath, List.nodup_cons.mpr ⟨hs', hdirect⟩, ?_, ?_⟩
        · rw [List.map_cons, List.forall_mem_cons]
          exact ⟨hs, fun x hx hV => havoid x hx (Set.mem_insert_of_mem _ hV)⟩
        · exact fun h => hend (Set.mem_insert_of_mem _ h)
  · rintro ⟨hpos, n, hacc, hpath, hdirect, havoid, hend⟩
    generalize ht : (n, j) = t at hpath
    induction hpath generalizing V with
    | nil =>
        subst ht
        exact .accept hend hpos hacc
    | @cons s s' t i k w hi hk hw ih =>
        subst ht
        rw [IsDirect, List.map_cons, List.nodup_cons] at hdirect
        rw [List.map_cons, List.forall_mem_cons] at havoid
        -- the path goes on from `s`, so it does not accept there
        have hne : (n, j) ≠ s := by
          rintro rfl
          cases hacc.symm.trans hi
          simp [Instr.next] at hk
        refine .step havoid.1 hpos hi hk (ih ?_ hdirect.2 ?_ ?_ rfl)
        · exact le_size_of_mem_next (List.mem_of_getElem? hk) hpos
        · rintro x hx (rfl | hV)
          · exact hdirect.1 hx
          · exact havoid.2 x hx hV
        · rintro (h | h)
          · exact hne h
          · exact hend h

/-! ### Trails and ways

A program is the parts of its pattern behind a single instruction that accepts. Paths
through the parts are the ways through the pattern with their numbers raised by one, so
trails are direct ways, and the order of the choices is the same. -/

/-- No part of a pattern accepts. -/
theorem Compiled.ne_accept (h : Compiled prog p entry next base) (hk : base ≤ k)
    (hlt : k < base + p.parts) : prog[k]? ≠ some .accept := by
  induction h with
  | empty => simp only [Pattern.parts] at hlt; omega
  | chars hi | look hi =>
      simp only [Pattern.parts] at hlt
      obtain rfl : k = _ := Nat.le_antisymm (Nat.le_of_lt_succ hlt) hk
      simp [hi]
  | group _ ih => exact ih hk hlt
  | @seq p q _ _ _ base _ _ ihq ihp =>
      simp only [Pattern.parts] at hlt
      rcases Nat.lt_or_ge k (base + q.parts) with h | h
      · exact ihq hk h
      -- the parts of `q` come first, since `p` is compiled to go on there
      · exact ihp h (by omega)
  | @alt p q _ _ _ base _ _ hi ihq ihp =>
      simp only [Pattern.parts] at hlt
      rcases Nat.lt_or_ge k (base + q.parts) with h | h
      · exact ihq hk h
      rcases Nat.lt_or_ge k (base + q.parts + p.parts) with h' | h'
      · exact ihp h h'
      -- the last part of an alternative is its choice
      · obtain rfl : k = base + (q.parts + p.parts) := by omega
        simp [hi]
  | @plus greedy p _ _ base hi _ ih =>
      rw [parts_plus] at hlt
      rcases Nat.eq_or_lt_of_le hk with rfl | h
      · cases greedy <;> simp [hi, Program.choice]
      · exact ih h (by omega)
  | unrolled hq _ ih => exact ih hk (by rwa [Pattern.parts_of_unrolled? hq] at hlt)

/-- The program of a pattern accepts behind the pattern and nowhere else. -/
theorem program_compiled (p : Pattern) : Compiled p.program.2 p p.program.1 0 1 ∧
    ∀ n, p.program.2[n]? = some .accept ↔ n = 0 := by
  obtain ⟨hsize, hold, hcode⟩ := compile_adds p 0 #[.accept]
  refine ⟨hcode, fun n => ⟨fun h => ?_, ?_⟩⟩
  · by_contra hn
    refine hcode.ne_accept (Nat.one_le_iff_ne_zero.mpr hn) ?_ h
    exact hsize ▸ (Array.getElem?_eq_some_iff.mp h).1
  · rintro rfl
    exact hold 0 (Nat.one_pos)

/-- The paths through a program are the ways through its pattern. -/
theorem path_program_iff : Path p.program.2 text (p.program.1, i) w (0, j) ↔
    ∃ v, w = v.map (.shift 1) ∧ Way text p i v j := by
  obtain ⟨hcode, hacc⟩ := program_compiled p
  constructor
  · intro h
    -- the path runs through the pattern to its exit, where nothing goes on
    obtain ⟨v, u, k, rfl, hv, hu⟩ := hcode.exists_way h (.inl Nat.one_pos)
    cases hu with
    | nil => exact ⟨v, List.append_nil _, hv⟩
    | cons hi hk =>
        cases hi.symm.trans ((hacc 0).mpr rfl)
        simp [Instr.next] at hk
  · rintro ⟨v, rfl, hv⟩
    exact hv.path hcode

theorem trail_program_iff : Trail p.program.2 text ∅ (p.program.1, i) w j ↔
    i ≤ text.size ∧ ∃ v, w = v.map (.shift 1) ∧ Way text p i v j ∧ IsDirect v := by
  simp only [trail_iff, (program_compiled p).2, exists_eq_left, path_program_iff,
    Set.mem_empty_iff_false, not_false_iff, implies_true, and_true]
  refine and_congr_right fun _ => ⟨?_, ?_⟩
  · rintro ⟨⟨v, rfl, hv⟩, hdirect⟩
    exact ⟨v, rfl, hv, isDirect_map_shift.mp hdirect⟩
  · rintro ⟨v, rfl, hv, hdirect⟩
    exact ⟨⟨v, rfl, hv⟩, isDirect_map_shift.mpr hdirect⟩

/-- Where a way leads, a direct way leads too. -/
theorem Way.exists_direct (h : Way text p i w j) : ∃ v, Way text p i v j ∧ IsDirect v := by
  obtain ⟨u, hdirect, hpath⟩ := (path_program_iff.mpr ⟨w, rfl, h⟩).exists_direct
  obtain ⟨v, rfl, hv⟩ := path_program_iff.mp hpath
  exact ⟨v, hv, isDirect_map_shift.mp hdirect⟩

/-- A pattern matches where its program has a trail. -/
theorem exists_trail_iff :
    (∃ w, Trail p.program.2 text ∅ (p.program.1, i) w j) ↔ p.Matches text i j := by
  simp only [trail_program_iff, Pattern.Matches]
  constructor
  · rintro ⟨_, hi, v, -, hv, -⟩
    exact ⟨hi, v, hv⟩
  · rintro ⟨hi, v, hv⟩
    obtain ⟨w, hw, hdirect⟩ := hv.exists_direct
    exact ⟨_, hi, w, rfl, hw, hdirect⟩

/-- The first trail of a program ends where the first match of its pattern does. -/
theorem exists_isFirstTrail_iff :
    (∃ w, IsFirstTrail p.program.2 text ∅ (p.program.1, i) w j) ↔ p.FirstMatch text i j := by
  have hinj := List.map_injective_iff.mpr (Visit.shift_injective 1)
  simp only [IsFirstTrail, trail_program_iff, Pattern.FirstMatch]
  constructor
  · rintro ⟨_, ⟨hi, w, rfl, hw, hdirect⟩, hleast⟩
    refine ⟨hi, w, hw, hdirect, fun w' k hw' hdirect' => ?_⟩
    -- raising the numbers changes no choice
    simpa [hinj.eq_iff] using hleast _ k ⟨hi, w', rfl, hw', hdirect'⟩
  · rintro ⟨hi, w, hw, hdirect, hleast⟩
    refine ⟨_, ⟨hi, w, rfl, hw, hdirect⟩, ?_⟩
    rintro _ k ⟨-, w', rfl, hw', hdirect'⟩
    simpa [hinj.eq_iff] using hleast w' k hw' hdirect'

/-! ### The first match

Of the starts the leftmost counts, and at one start the first direct way. Both are least
elements, so there is one of them where there are any (`Matches.exists_leftmostFirst`) and
never two. -/

namespace Pattern

/-- Whether a stretch is the first match of a pattern in a text from a position on: nothing matches
from there to its start, and of the matches at its start it is the first. -/
structure LeftmostFirst (text : Array Char) (p : Pattern) (start : Nat) (m : Match) : Prop where
  start_le : start ≤ m.start
  not_before : ∀ k, start ≤ k → k < m.start → ∀ j, ¬ p.Matches text k j
  first : p.FirstMatch text m.start m.stop

/-- The first match from a position on is the first one from any position between. -/
theorem LeftmostFirst.mono {start : Nat} {m : Match} (h : p.LeftmostFirst text start m)
    (hk : start ≤ k) (hm : k ≤ m.start) : p.LeftmostFirst text k m :=
  ⟨hm, fun i hi => h.not_before i (Nat.le_trans hk hi), h.first⟩

theorem leftmostFirst_of_firstMatch {start : Nat} {m : Match}
    (h : firstMatch p.program.2 p.program.1 text start ∅ = some m) :
    p.LeftmostFirst text start m := by
  obtain ⟨hle, hfirst, hbefore⟩ := firstMatch_eq_some (by simp [Explored]) h
  refine ⟨hle, fun k hk hlt j hm => ?_, exists_isFirstTrail_iff.mp hfirst⟩
  obtain ⟨w, hw⟩ := exists_trail_iff.mpr hm
  exact hbefore k hk hlt w j hw

theorem not_matches_of_firstMatch {start : Nat}
    (h : firstMatch p.program.2 p.program.1 text start ∅ = none) (hk : start ≤ k) :
    ¬ p.Matches text k j := by
  intro hm
  obtain ⟨w, hw⟩ := exists_trail_iff.mpr hm
  exact firstMatch_eq_none (by simp [Explored]) h k hk w j hw

/-- Where a pattern matches, one of its matches is the first. -/
theorem Matches.exists_leftmostFirst {start : Nat} (h : p.Matches text k j) (hk : start ≤ k) :
    ∃ m, p.LeftmostFirst text start m := by
  cases hm : firstMatch p.program.2 p.program.1 text start ∅ with
  | none => exact absurd h (not_matches_of_firstMatch hm hk)
  | some m => exact ⟨m, leftmostFirst_of_firstMatch hm⟩

/-- There is only one first match at a position. -/
theorem FirstMatch.unique (h : p.FirstMatch text i j) (h' : p.FirstMatch text i k) : j = k := by
  obtain ⟨-, w, hw, hdirect, hleast⟩ := h
  obtain ⟨-, w', hw', hdirect', hleast'⟩ := h'
  -- the same way ends at one place
  rcases hleast w' k hw' hdirect' with rfl | hlt
  · have hpath := path_program_iff.mpr ⟨w', rfl, hw⟩
    exact congrArg Prod.snd (hpath.unique (path_program_iff.mpr ⟨w', rfl, hw'⟩))
  -- two ways cannot each come before the other
  · rcases hleast' w j hw hdirect with rfl | hlt'
    · exact absurd hlt (List.lt_irrefl _)
    · exact absurd hlt' (List.lt_asymm hlt)

theorem LeftmostFirst.unique {start : Nat} {m n : Match} (hm : p.LeftmostFirst text start m)
    (hn : p.LeftmostFirst text start n) : m = n := by
  have hstart : m.start = n.start := by
    rcases Nat.lt_trichotomy m.start n.start with hlt | heq | hgt
    · exact absurd hm.first.matches (hn.not_before _ hm.start_le hlt _)
    · exact heq
    · exact absurd hn.first.matches (hm.not_before _ hn.start_le hgt _)
  obtain ⟨start', stop⟩ := m
  -- one start, so the ends agree by what was shown of ways
  obtain rfl : start' = n.start := hstart
  obtain rfl : stop = n.stop := hm.first.unique hn.first
  rfl

end Pattern

/-! ### The search

What is compiled keeps the pattern with its program, so the statements about the one are
statements about the other. -/

variable {source : String} {re : MailMerge.Regex} {start : Nat} {m : Match}

theorem program_of_compile? (h : compile? source = .ok re) :
    re.pattern.program = (re.entry, re.program) := by
  obtain ⟨p, -, -, rfl⟩ := eq_of_compile? h
  rfl

/-- The search for a compiled pattern finds its first match from a position on. -/
theorem find_eq_some_iff (h : compile? source = .ok re) :
    re.find text start = some m ↔ re.pattern.LeftmostFirst text start m := by
  have hprog := program_of_compile? h
  have hfind (n : Match) (hn : re.find text start = some n) :
      re.pattern.LeftmostFirst text start n := by
    apply Pattern.leftmostFirst_of_firstMatch
    rw [hprog]
    exact hn
  refine ⟨hfind m, fun hm => ?_⟩
  cases hn : re.find text start with
  | some n => rw [hm.unique (hfind n hn)]
  -- a pattern with a match has a first one, and the search would have found it
  | none =>
      refine absurd hm.first.matches (Pattern.not_matches_of_firstMatch ?_ hm.start_le)
      rw [hprog]
      exact hn

/-- The search for a compiled pattern gives up where it matches nothing more. -/
theorem find_eq_none_iff (h : compile? source = .ok re) :
    re.find text start = none ↔ ∀ i j, start ≤ i → ¬ re.pattern.Matches text i j := by
  constructor
  · intro hnone i j hi hm
    obtain ⟨m, hm⟩ := hm.exists_leftmostFirst hi
    simp [(find_eq_some_iff h).mpr hm] at hnone
  · intro hno
    cases hm : re.find text start with
    | none => rfl
    | some m =>
        have hm := (find_eq_some_iff h).mp hm
        exact absurd hm.first.matches (hno _ _ hm.start_le)

end MailMerge.Regex
