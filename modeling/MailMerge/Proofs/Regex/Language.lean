import MailMerge.Proofs.CharSet
import MailMerge.Proofs.Regex.SameWays
import Mathlib.Data.List.Infix
import Mathlib.Data.List.SplitBy

/-!
# What patterns match

Which stretches of a text a pattern matches, by the form of the pattern, with a repetition as a
number of rounds (`matches_repeated`). Building patterns in a simplified form changes nothing about
it (`matches_concat`, `matches_alternate`, `matches_repeat`), although it may change which match
comes first.
-/

namespace MailMerge.Regex.Pattern

variable {text : Array Char} {p q : Pattern} {i j k n : Nat}

/-! ### Forms of patterns

One lemma for each form of a pattern, from the rules of `Way`. The bound `i ≤ text.size` is
a part of `Matches`, so the forms that read nothing have to state it. -/

theorem matches_empty : empty.Matches text i j ↔ i ≤ text.size ∧ i = j := by
  refine and_congr_right fun _ => ⟨?_, ?_⟩
  · rintro ⟨_, ⟨⟩⟩
    rfl
  · rintro rfl
    exact ⟨_, .empty⟩

theorem matches_chars {s : CharClass} :
    (chars s).Matches text i j ↔ text[i]?.any s.contains = true ∧ j = i + 1 := by
  constructor
  · rintro ⟨-, _, hway⟩
    cases hway with
    | chars hc => exact ⟨hc, rfl⟩
  · rintro ⟨hc, rfl⟩
    exact ⟨Nat.le_of_lt (lt_size_of_any hc), _, .chars hc⟩

theorem matches_look {l : Look} :
    (look l).Matches text i j ↔ i ≤ text.size ∧ l.holds text i = true ∧ i = j := by
  refine and_congr_right fun _ => ⟨?_, ?_⟩
  · rintro ⟨_, hway⟩
    cases hway with
    | look hl => exact ⟨hl, rfl⟩
  · rintro ⟨hl, rfl⟩
    exact ⟨_, .look hl⟩

@[simp] theorem matches_group : (group n p).Matches text i j ↔ p.Matches text i j :=
  (sameWays_group n p).matches_iff

theorem matches_seq :
    (seq p q).Matches text i j ↔ ∃ k, p.Matches text i k ∧ q.Matches text k j := by
  constructor
  · rintro ⟨hi, _, hway⟩
    cases hway with
    | seq hp hq => exact ⟨_, ⟨hi, _, hp⟩, hp.le_size hi, _, hq⟩
  · rintro ⟨k, ⟨hi, _, hp⟩, -, _, hq⟩
    exact ⟨hi, _, .seq hp hq⟩

theorem matches_alt :
    (alt p q).Matches text i j ↔ p.Matches text i j ∨ q.Matches text i j := by
  constructor
  · rintro ⟨hi, _, hway⟩
    cases hway with
    | first hp => exact .inl ⟨hi, _, hp⟩
    | second hq => exact .inr ⟨hi, _, hq⟩
  · rintro (⟨hi, _, hp⟩ | ⟨hi, _, hq⟩)
    · exact ⟨hi, _, .first hp⟩
    · exact ⟨hi, _, .second hq⟩

/-! ### Repetitions

A repetition is resolved by unrolling: each copy of the pattern is a part of its own, and
only `p+` loops. Rounds count them without regard to how they are written, and a bound above
the lower one counts as the lower one, as unrolling has it. -/

/-- Whether a pattern matches a stretch in a number of rounds, one behind the other. -/
def Rounds (text : Array Char) (p : Pattern) : Nat → Nat → Nat → Prop
  | 0, i, j => i ≤ text.size ∧ i = j
  | n + 1, i, j => ∃ k, p.Matches text i k ∧ Rounds text p n k j

theorem matches_unrolled {greedy : Bool} {min : Nat} {max : Option Nat}
    (h : unrolled? greedy p min max = some q) :
    (repeated greedy min max p).Matches text i j ↔ q.Matches text i j :=
  (sameWays_unrolled h).matches_iff

theorem matches_optional {greedy : Bool} : (optional greedy p).Matches text i j ↔
    p.Matches text i j ∨ i ≤ text.size ∧ i = j := by
  cases greedy <;> simp [optional, matches_alt, matches_empty, or_comm]

theorem matches_plus {greedy : Bool} :
    (repeated greedy 1 none p).Matches text i j ↔ ∃ n, Rounds text p (n + 1) i j := by
  constructor
  · rintro ⟨hi, w, hway⟩
    -- the induction is on the way, so the pattern it goes through must be a variable
    generalize hplus : repeated greedy 1 none p = q at hway
    induction hway with
    | last hp =>
        cases hplus
        exact ⟨0, _, ⟨hi, _, hp⟩, hp.le_size hi, rfl⟩
    | again hp _ _ ih =>
        cases hplus
        obtain ⟨n, hn⟩ := ih (hp.le_size hi) rfl
        exact ⟨n + 1, _, ⟨hi, _, hp⟩, hn⟩
    -- `p+` itself is not unrolled any further
    | unrolled hq =>
        cases hplus
        cases hq
    | _ => cases hplus
  · rintro ⟨n, hn⟩
    induction n generalizing i with
    | zero =>
        obtain ⟨_, ⟨hi, _, hp⟩, -, rfl⟩ := hn
        exact ⟨hi, _, .last hp⟩
    | succ n ih =>
        obtain ⟨k, ⟨hi, _, hp⟩, hrest⟩ := hn
        obtain ⟨-, _, hway⟩ := ih hrest
        exact ⟨hi, _, .again hp hway⟩

/-- No round at all, or one and then the others. -/
theorem exists_rounds {P : Nat → Prop} : (∃ n, P n ∧ Rounds text p n i j) ↔
    P 0 ∧ i ≤ text.size ∧ i = j ∨
      ∃ k, p.Matches text i k ∧ ∃ n, P (n + 1) ∧ Rounds text p n k j := by
  constructor
  -- the number of rounds itself, taken apart at the first of them
  · rintro ⟨n, hn, hrounds⟩
    cases n with
    | zero => exact .inl ⟨hn, hrounds⟩
    | succ n =>
        obtain ⟨k, hk, hrest⟩ := hrounds
        exact .inr ⟨k, hk, n, hn, hrest⟩
  · rintro (⟨h, hrounds⟩ | ⟨k, hk, n, hn, hrest⟩)
    · exact ⟨0, h, hrounds⟩
    · exact ⟨n + 1, hn, k, hk, hrest⟩

/-- A repetition matches in a number of rounds between its bounds. -/
theorem matches_repeated {greedy : Bool} {lo : Nat} {hi : Option Nat} :
    (repeated greedy lo hi p).Matches text i j ↔
      ∃ n, (lo ≤ n ∧ ∀ m ∈ hi, n ≤ max lo m) ∧ Rounds text p n i j := by
  -- the lower bound is unrolled first, and at zero the upper one; a missing upper bound ends
  -- in the loop of `p+`
  induction lo generalizing i hi with
  | zero =>
      cases hi with
      | none =>
          rw [matches_unrolled rfl, matches_optional, matches_plus, or_comm, exists_rounds]
          simp [Rounds, @exists_comm Nat]
      | some hi =>
          induction hi generalizing i with
          | zero =>
              rw [matches_unrolled rfl, matches_empty, exists_rounds]
              simp
          | succ hi ih =>
              rw [matches_unrolled rfl, matches_optional, matches_seq, or_comm, exists_rounds]
              simp [ih]
  -- at least one round: it cannot be none, so the first alternative falls away
  | succ lo ih =>
      have hzero : ¬ lo + 1 ≤ 0 := Nat.not_succ_le_zero lo
      rw [exists_rounds]
      cases hi with
      | some hi =>
          have hle (n : Nat) : n ≤ max lo (hi - 1) ↔ n + 1 ≤ max (lo + 1) hi := by omega
          rw [matches_unrolled rfl, matches_seq]
          simp only [ih, Option.mem_some_iff, forall_eq', hle, Nat.add_le_add_iff_right, hzero,
            false_and, false_or]
      | none =>
          cases lo with
          | zero =>
              rw [matches_plus]
              simp [Rounds, @exists_comm Nat]
          | succ lo =>
              rw [matches_unrolled rfl, matches_seq]
              simp [ih]

/-! ### Sequences

Sequences are nested to the right, and a sequence inside one is written out. The ways
through both forms are the same up to the numbers of the parts (`SameWays`), so there is
nothing to show here. -/

variable {ps qs : List Pattern}

theorem matches_ofItems_cons : (ofItems (p :: ps)).Matches text i j ↔
    ∃ k, p.Matches text i k ∧ (ofItems ps).Matches text k j :=
  (sameWays_ofItems_cons p ps).matches_iff.trans matches_seq

theorem matches_ofItems_append : (ofItems (ps ++ qs)).Matches text i j ↔
    ∃ k, (ofItems ps).Matches text i k ∧ (ofItems qs).Matches text k j :=
  (sameWays_ofItems_append ps qs).matches_iff.trans matches_seq

/-- A pattern matches what the sequence of its members matches. -/
theorem matches_ofItems_items : (ofItems p.items).Matches text i j ↔ p.Matches text i j :=
  (sameWays_items p).matches_iff

/-- Sequences in sequences are written out. -/
theorem matches_concat : (concat ps).Matches text i j ↔ (ofItems ps).Matches text i j :=
  (sameWays_concat ps).matches_iff

/-! ### Alternatives

Alternatives one of which matches, in three forms: nested to the right, written out of one
another, and joined to a class. Which of them the match takes is lost here, and it is the
order of the alternatives that the choice of the first match depends on; that is another
module's matter. -/

theorem matches_ofBranches :
    (ofBranches ps).Matches text i j ↔ ∃ p ∈ ps, p.Matches text i j := by
  induction ps with
  | nil =>
      have hno : CharClass.empty.contains = fun _ => false := rfl
      simp [ofBranches, matches_chars, hno]
  | cons p ps ih =>
      cases ps with
      | nil => simp [ofBranches]
      | cons q ps =>
          have hcons : ofBranches (p :: q :: ps) = alt p (ofBranches (q :: ps)) := rfl
          rw [hcons, matches_alt, ih]
          simp

theorem exists_mem_branches :
    (∃ q ∈ p.branches, q.Matches text i j) ↔ p.Matches text i j := by
  -- only an alternative is written out; every other form is its own single branch
  induction p with
  | alt p q ihp ihq =>
      simp only [branches, List.mem_append, or_and_right, exists_or, ihp, ihq, matches_alt]
  | _ => simp [branches]

theorem exists_mem_flatMap_branches :
    (∃ q ∈ ps.flatMap branches, q.Matches text i j) ↔ ∃ p ∈ ps, p.Matches text i j := by
  simp only [List.mem_flatMap]
  constructor
  · rintro ⟨q, ⟨p, hp, hq⟩, hm⟩
    exact ⟨p, hp, exists_mem_branches.mp ⟨q, hq, hm⟩⟩
  · rintro ⟨p, hp, hm⟩
    obtain ⟨q, hq, hm⟩ := exists_mem_branches.mpr hm
    exact ⟨q, ⟨p, hp, hq⟩, hm⟩

theorem eq_map_of_mapM_class? {cs : List CharClass} (h : ps.mapM class? = some cs) :
    ps = cs.map chars := by
  induction ps generalizing cs with
  | nil =>
      cases h
      rfl
  | cons p ps ih =>
      simp only [List.mapM_cons, Option.bind_eq_bind, Option.bind_eq_some_iff, Option.pure_def,
        Option.some.injEq] at h
      obtain ⟨c, hc, rest, hrest, rfl⟩ := h
      -- a pattern is a class only if it is a set of characters
      cases p with
      | chars d =>
          cases hc
          rw [ih hrest, List.map_cons]
      | _ => cases hc

theorem contains_of_unions {cs : List CharClass} {unicode : Bool} {x : Char} :
    (CharClass.of unicode (.unions (cs.map (·.toCharSet)))).contains x = true ↔
      ∃ c ∈ cs, c.contains x = true := by
  rw [CharClass.toCharSet_of, CharSet.contains_unions]
  simp

theorem contains_of_joined? {cs : List CharClass} {c : CharClass} (h : joined? cs = some c)
    (x : Char) : c.contains x = true ↔ ∃ d ∈ cs, d.contains x = true := by
  unfold joined? at h
  split at h
  · cases h
    exact contains_of_unions
  · cases h

theorem matches_of_joined? {cs : List CharClass} {c : CharClass} (h : joined? cs = some c) :
    (chars c).Matches text i j ↔ ∃ d ∈ cs, (chars d).Matches text i j := by
  simp only [matches_chars]
  -- behind the end of the text no class has anything to match
  cases text[i]? with
  | none => simp
  | some x =>
      simp only [Option.any_some, contains_of_joined? h]
      constructor
      · rintro ⟨⟨d, hd, hx⟩, rfl⟩
        exact ⟨d, hd, hx, rfl⟩
      · rintro ⟨d, hd, hx, rfl⟩
        exact ⟨⟨d, hd, hx⟩, rfl⟩

/-- Alternatives are left as they are, or they are classes and become one. -/
theorem ofAlternatives_cases (ps : List Pattern) : ofAlternatives ps = ofBranches ps ∨
    ∃ cs c, ps = cs.map chars ∧ joined? cs = some c ∧ ofAlternatives ps = chars c := by
  unfold ofAlternatives
  split
  · exact .inl rfl
  · split
    · next h =>
        obtain ⟨cs, hcs, hc⟩ := Option.bind_eq_some_iff.mp h
        exact .inr ⟨cs, _, eq_map_of_mapM_class? hcs, hc, rfl⟩
    · exact .inl rfl

theorem matches_ofAlternatives :
    (ofAlternatives ps).Matches text i j ↔ ∃ p ∈ ps, p.Matches text i j := by
  rcases ofAlternatives_cases ps with h | ⟨cs, c, rfl, hc, h⟩
  · rw [h]
    exact matches_ofBranches
  · rw [h, matches_of_joined? hc]
    simp

/-! ### Common starts

The alternatives of a pattern are compared by elements, and an element is a part or a whole
run of single characters. What all of them start with is a start of each list of parts,
which is all that taking it out needs. -/

theorem prefix_commonStart {α : Type} [DecidableEq α] (xs ys : List α) :
    commonStart xs ys <+: xs ∧ commonStart xs ys <+: ys := by
  fun_induction commonStart xs ys with
  | case1 x xs ys ih =>
      exact ⟨List.cons_prefix_cons.mpr ⟨rfl, ih.1⟩, List.cons_prefix_cons.mpr ⟨rfl, ih.2⟩⟩
  | case2 | case3 => exact ⟨List.nil_prefix, List.nil_prefix⟩

/-- What is cut down to what it has in common with each list in turn is a start of all of them. -/
theorem prefix_foldl_commonStart {α : Type} [DecidableEq α] (start : List α)
    (xss : List (List α)) : xss.foldl commonStart start <+: start ∧
      ∀ xs ∈ xss, xss.foldl commonStart start <+: xs := by
  induction xss generalizing start with
  | nil => exact ⟨List.prefix_rfl, by simp⟩
  -- cutting down goes on, so what is left is a start of every stage before
  | cons xs xss ih =>
      obtain ⟨hstart, hrest⟩ := ih (commonStart start xs)
      refine ⟨hstart.trans (prefix_commonStart start xs).1, List.forall_mem_cons.mpr ⟨?_, hrest⟩⟩
      exact hstart.trans (prefix_commonStart start xs).2

theorem flatten_elements (p : Pattern) : p.elements.flatten = p.items := List.flatten_splitBy _ _

/-- All alternatives start with what they share. -/
theorem sharedStart_prefix (hp : p ∈ ps) : sharedStart ps <+: p.items := by
  rw [← flatten_elements]
  unfold sharedStart
  split
  · next first second rest hps =>
      split
      · have hmem : p.elements ∈ first :: second :: rest := hps ▸ List.mem_map_of_mem hp
        obtain ⟨hfirst, hrest⟩ := prefix_foldl_commonStart first (second :: rest)
        exact List.IsPrefix.flatten
          ((List.mem_cons.mp hmem).elim (fun h => h ▸ hfirst) (hrest p.elements))
      · exact List.nil_prefix
  · exact List.nil_prefix

/-- What stands before alternatives can as well stand in each of them. -/
theorem matches_lifted {shared : List Pattern} (h : ∀ p ∈ ps, shared <+: p.items) :
    (concat (shared ++ [ofAlternatives ((ps.map fun p =>
        ofItems (p.items.drop shared.length)).flatMap branches)])).Matches text i j ↔
      ∃ p ∈ ps, p.Matches text i j := by
  -- each alternative is the shared start and then its own rest
  have hwhole {p : Pattern} (hp : p ∈ ps) : p.Matches text i j ↔ ∃ k,
      (ofItems shared).Matches text i k ∧
        (ofItems (p.items.drop shared.length)).Matches text k j := by
    rw [← matches_ofItems_append, ← matches_ofItems_items]
    obtain ⟨rest, hrest⟩ := h p hp
    rw [← hrest, List.drop_left]
  have hone {q : Pattern} {k : Nat} : (ofItems [q]).Matches text k j ↔ q.Matches text k j := Iff.rfl
  simp only [matches_concat, matches_ofItems_append, hone, matches_ofAlternatives,
    exists_mem_flatMap_branches, List.mem_map]
  constructor
  · rintro ⟨k, hshared, -, ⟨p, hp, rfl⟩, hm⟩
    exact ⟨p, hp, (hwhole hp).mpr ⟨k, hshared, hm⟩⟩
  · rintro ⟨p, hp, hm⟩
    obtain ⟨k, hshared, hm⟩ := (hwhole hp).mp hm
    exact ⟨k, hshared, _, ⟨p, hp, rfl⟩, hm⟩

/-- Alternatives match what one of them matches. -/
theorem matches_alternate :
    (alternate ps).Matches text i j ↔ ∃ p ∈ ps, p.Matches text i j := by
  rw [← exists_mem_flatMap_branches, alternate]
  dsimp only
  split
  · exact matches_ofAlternatives
  · exact matches_lifted fun p => sharedStart_prefix

/-! ### Simplified repetitions

A pattern that matches nothing but the empty text is repeated at most once. One round of it
does what many do, so only the difference between no round and some round is left of the
bounds. -/

theorem Rounds.eq_of_forall (hp : ∀ i j, p.Matches text i j → i = j) (h : Rounds text p n i j) :
    i = j := by
  induction n generalizing i with
  | zero => exact h.2
  | succ n ih =>
      obtain ⟨k, hk, hrest⟩ := h
      exact (hp i k hk).trans (ih hrest)

theorem eq_of_isEmptyOnly (h : p.isEmptyOnly = true) (hm : p.Matches text i j) : i = j := by
  induction p generalizing i j with
  | empty => exact (matches_empty.mp hm).2
  | chars => cases h
  | look => exact (matches_look.mp hm).2.2
  | group n p ih => exact ih h (matches_group.mp hm)
  | seq p q ihp ihq =>
      rw [isEmptyOnly, Bool.and_eq_true] at h
      obtain ⟨k, hp, hq⟩ := matches_seq.mp hm
      exact (ihp h.1 hp).trans (ihq h.2 hq)
  | alt p q ihp ihq =>
      rw [isEmptyOnly, Bool.and_eq_true] at h
      exact (matches_alt.mp hm).elim (ihp h.1) (ihq h.2)
  | repeated greedy lo hi p ih =>
      obtain ⟨n, -, hrounds⟩ := matches_repeated.mp hm
      exact hrounds.eq_of_forall fun i j => ih h

theorem rounds_one : Rounds text p 1 i j ↔ p.Matches text i j := by
  constructor
  · rintro ⟨k, hk, -, rfl⟩
    exact hk
  · intro h
    exact ⟨j, h, h.le_size, rfl⟩

/-- Many rounds of the empty text are as good as one. -/
theorem rounds_of_isEmptyOnly (h : p.isEmptyOnly = true) :
    Rounds text p (n + 1) i j ↔ p.Matches text i j := by
  induction n generalizing i with
  | zero => exact rounds_one
  | succ n ih =>
      constructor
      · rintro ⟨k, hk, hrest⟩
        -- the first round stays where it is, so the others might as well begin there
        obtain rfl := eq_of_isEmptyOnly h hk
        exact ih.mp hrest
      · intro hm
        obtain rfl := eq_of_isEmptyOnly h hm
        exact ⟨i, hm, ih.mpr hm⟩

theorem matches_repeated_of_isEmptyOnly {greedy : Bool} {lo : Nat} {hi : Option Nat}
    (h : p.isEmptyOnly = true) (hhi : hi ≠ some 0) :
    (repeated greedy lo hi p).Matches text i j ↔
      lo = 0 ∧ i ≤ text.size ∧ i = j ∨ p.Matches text i j := by
  rw [matches_repeated]
  constructor
  · rintro ⟨n, ⟨hlo, -⟩, hrounds⟩
    cases n with
    | zero => exact .inl ⟨Nat.le_zero.mp hlo, hrounds⟩
    | succ n => exact .inr ((rounds_of_isEmptyOnly h).mp hrounds)
  · rintro (⟨rfl, hm⟩ | hm)
    · exact ⟨0, ⟨Nat.le_refl _, fun _ _ => Nat.zero_le _⟩, hm⟩
    -- the smallest number of rounds that is allowed and not zero
    · refine ⟨lo - 1 + 1, ⟨by omega, fun m hm => ?_⟩, (rounds_of_isEmptyOnly h).mpr hm⟩
      have hne : m ≠ 0 := fun h => hhi (h ▸ hm)
      omega

theorem matches_once {greedy : Bool} :
    (repeated greedy 1 (some 1) p).Matches text i j ↔ p.Matches text i j :=
  (sameWays_once greedy p).matches_iff

/-- Repetitions in a simplified form match the same. -/
theorem matches_repeat {greedy : Bool} {lo : Nat} {hi : Option Nat} (hhi : hi ≠ some 0) :
    (Pattern.repeat greedy lo hi p).Matches text i j ↔
      (repeated greedy lo hi p).Matches text i j := by
  unfold Pattern.repeat
  by_cases hp : p.isEmptyOnly = true
  -- the upper bound is one behind the cap, since zero is excluded
  · have hcap : Nat.min (hi.getD 1) 1 = 1 := by
      cases hi with
      | none => rfl
      | some m => exact Nat.min_eq_right (Nat.one_le_iff_ne_zero.mpr fun h => hhi (congrArg some h))
    rw [matches_repeated_of_isEmptyOnly hp hhi]
    simp only [hp, if_true, hcap]
    cases lo with
    | zero => simp [matches_repeated_of_isEmptyOnly hp]
    | succ lo => simp
  · simp only [if_neg hp, if_neg hhi]
    split
    · next hone =>
        obtain ⟨rfl, rfl⟩ := hone
        exact matches_once.symm
    · exact Iff.rfl

end MailMerge.Regex.Pattern
