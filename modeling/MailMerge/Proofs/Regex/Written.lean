import MailMerge.Proofs.Regex.Direct
import MailMerge.Proofs.Regex.Simplified
import MailMerge.Proofs.Regex.Spans

/-!
# Patterns as they are written

A pattern is compiled in a simplified form. As it is written (`Expr.written`) it matches the same
stretches of every text (`exists_written_of_compile?`), so that replacement finds the leftmost
matches of what was written.

Which of the matches that start at one place comes first is settled by the simplified form. It is
the same one (`replaceAll_leftmostFirst`) unless alternatives start with the same members and these
leave a choice: taken out of the alternatives, their choices come before the choice between the
alternatives. Where no such start is taken out, the expression is orderly (`Expr.isOrderly`).
-/

namespace MailMerge.Regex

mutual

/-- The pattern that an expression stands for as it is written, with every sequence, alternative and
repetition as it stands there. What is repeated no times at all is nothing. -/
def Expr.written (fs : Flags) : Expr → Except Mistake (Pattern × Flags)
  | .repeated _ greedy min max body => do
    let (p, fs) ← body.written fs
    return (if max = some 0 then .empty else .repeated (greedy != fs.swapGreed) min max p, fs)
  | .group _ kind body => do
    match kind with
    | .capture index =>
      let (p, _) ← body.written fs
      return (.group index p, fs)
    | .plain items =>
      let (p, _) ← body.written (fs.apply items)
      return (p, fs)
  | .alternation _ items => do
    let (ps, fs) ← Expr.writtenAll fs items
    return (.ofBranches ps, fs)
  | .concat _ items => do
    let (ps, fs) ← Expr.writtenAll fs items
    return (.ofItems ps, fs)
  | e => e.resolve fs

/-- The patterns of a list of expressions as they are written. -/
def Expr.writtenAll (fs : Flags) : List Expr → Except Mistake (List Pattern × Flags)
  | [] => .ok ([], fs)
  | e :: rest => do
    let (p, fs) ← e.written fs
    let (ps, fs) ← Expr.writtenAll fs rest
    return (p :: ps, fs)

end

mutual

/-- Whether everything that is taken out in front of alternatives leaves no choice. -/
def Expr.isOrderly (fs : Flags) : Expr → Bool
  | .repeated _ _ _ _ body => body.isOrderly fs
  | .group _ kind body =>
    match kind with
    | .capture _ => body.isOrderly fs
    | .plain items => body.isOrderly (fs.apply items)
  | .alternation _ items =>
    Expr.areOrderly fs items &&
      match Expr.resolveAll fs items with
      | .ok (ps, _) => (Pattern.sharedStart (ps.flatMap Pattern.branches)).all Pattern.isFixed
      | .error _ => true
  | .concat _ items => Expr.areOrderly fs items
  | _ => true

/-- Whether this is so in each of a list of expressions. -/
def Expr.areOrderly (fs : Flags) : List Expr → Bool
  | [] => true
  | e :: rest =>
    e.isOrderly fs &&
      match e.resolve fs with
      | .ok (_, fs) => Expr.areOrderly fs rest
      | .error _ => true

end

/-- A step that succeeds has a result, from which the next one starts. -/
theorem exists_of_bind_eq_ok {ε α β : Type} {x : Except ε α} {f : α → Except ε β} {b : β}
    (h : x >>= f = .ok b) : ∃ a, x = .ok a ∧ f a = .ok b := by
  cases x with
  | error e => cases h
  | ok a => exact ⟨a, rfl, h⟩

namespace Pattern

/-- Whether two patterns match the same stretches of every text. -/
def Same (p q : Pattern) : Prop := ∀ text i j, p.Matches text i j ↔ q.Matches text i j

variable {p q : Pattern} {ps qs : List Pattern}

theorem Same.ofItems (h : List.Forall₂ Same ps qs) : Same (.ofItems ps) (.ofItems qs) := by
  induction h with
  | nil => exact fun _ _ _ => Iff.rfl
  | cons hp _ ih =>
      intro text i j
      simp only [matches_ofItems_cons]
      exact exists_congr fun k => and_congr (hp text i k) (ih text k j)

theorem Same.exists_mem (h : List.Forall₂ Same ps qs) (text : Array Char) (i j : Nat) :
    (∃ p ∈ ps, p.Matches text i j) ↔ ∃ q ∈ qs, q.Matches text i j := by
  induction h with
  | nil => simp
  | cons hp _ ih => simp only [List.exists_mem_cons_iff, hp text i j, ih]

theorem Same.rounds (h : Same p q) (text : Array Char) (n i j : Nat) :
    Rounds text p n i j ↔ Rounds text q n i j := by
  induction n generalizing i with
  | zero => exact Iff.rfl
  | succ n ih => exact exists_congr fun k => and_congr (h text i k) (ih k)

theorem Same.repeated (h : Same p q) (greedy : Bool) (lo : Nat) (hi : Option Nat) :
    Same (.repeated greedy lo hi p) (.repeated greedy lo hi q) := by
  intro text i j
  simp only [matches_repeated, h.rounds text]

end Pattern

mutual

/-- Resolving an expression keeps what it matches as it is written and, if it is orderly, the order
of the matches. -/
theorem Expr.written_of_resolve {fs fs' : Flags} {p : Pattern} :
    (e : Expr) → e.resolve fs = .ok (p, fs') → ∃ q, e.written fs = .ok (q, fs') ∧ p.Same q ∧
      (e.isOrderly fs = true → ∀ text, Pattern.SimplifiesTo text q p)
  | .repeated span greedy min max body, h => by
      rw [Expr.resolve] at h
      obtain ⟨⟨p, fs⟩, hp, h⟩ := exists_of_bind_eq_ok h
      cases h
      obtain ⟨q, hq, hsame, horder⟩ := Expr.written_of_resolve body hp
      rw [Expr.written, hq, Expr.isOrderly]
      refine ⟨_, rfl, ?_⟩
      split
      -- no rounds at all are nothing in both
      · next hmax =>
          subst hmax
          have hnone : Pattern.repeat (greedy != fs'.swapGreed) min (some 0) p = .empty := by
            unfold Pattern.repeat
            cases p.isEmptyOnly <;> rfl
          rw [hnone]
          exact ⟨fun _ _ _ => Iff.rfl, fun _ _ => .refl _⟩
      · next hmax =>
          refine ⟨fun text i j => ?_, fun ho text => ?_⟩
          · rw [Pattern.matches_repeat hmax, hsame.repeated]
          · exact ((horder ho text).repeated _ _ _).trans (Pattern.simplifiesTo_repeat hmax)
  | .group span (.capture index) body, h => by
      simp only [Expr.resolve] at h
      obtain ⟨⟨p, fs⟩, hp, h⟩ := exists_of_bind_eq_ok h
      cases h
      obtain ⟨q, hq, hsame, horder⟩ := Expr.written_of_resolve body hp
      refine ⟨.group index q, by simp only [Expr.written, hq]; rfl, fun text i j => ?_, fun ho => ?_⟩
      · rw [Pattern.matches_group, Pattern.matches_group, hsame]
      · rw [Expr.isOrderly] at ho
        exact fun text => (horder ho text).group index
  | .group span (.plain items) body, h => by
      simp only [Expr.resolve] at h
      obtain ⟨⟨p, fs⟩, hp, h⟩ := exists_of_bind_eq_ok h
      cases h
      obtain ⟨q, hq, hsame, horder⟩ := Expr.written_of_resolve body hp
      refine ⟨q, by simp only [Expr.written, hq]; rfl, hsame, fun ho => ?_⟩
      rw [Expr.isOrderly] at ho
      exact horder ho
  | .alternation span items, h => by
      rw [Expr.resolve] at h
      obtain ⟨⟨ps, fs⟩, hps, h⟩ := exists_of_bind_eq_ok h
      cases h
      obtain ⟨qs, hqs, hsame, horder⟩ := Expr.writtenAll_of_resolveAll items hps
      refine ⟨_, by rw [Expr.written, hqs]; rfl, fun text i j => ?_, fun ho text => ?_⟩
      -- which alternatives are joined or lifted makes no difference to what is matched
      · rw [Pattern.matches_alternate, Pattern.matches_ofBranches, Pattern.Same.exists_mem hsame]
      -- to the order it does, unless what is lifted leaves no choice
      · rw [Expr.isOrderly, hps, Bool.and_eq_true, List.all_eq_true] at ho
        exact (Pattern.SimplifiesTo.ofBranches (horder ho.1 text)).trans
          (Pattern.simplifiesTo_alternate ho.2)
  | .concat span items, h => by
      rw [Expr.resolve] at h
      obtain ⟨⟨ps, fs⟩, hps, h⟩ := exists_of_bind_eq_ok h
      cases h
      obtain ⟨qs, hqs, hsame, horder⟩ := Expr.writtenAll_of_resolveAll items hps
      refine ⟨_, by rw [Expr.written, hqs]; rfl, fun text i j => ?_, fun ho text => ?_⟩
      · rw [Pattern.matches_concat, Pattern.Same.ofItems hsame]
      · rw [Expr.isOrderly] at ho
        exact (Pattern.SimplifiesTo.ofItems (horder ho text)).trans
          (Pattern.sameWays_concat ps).symm.simplifiesTo
  -- what has no pattern inside it is written as it is compiled
  | .empty _, h | .flags .., h | .literal _, h | .dot _, h | .anchor .., h | .short .., h
  | .property .., h | .bracketed .., h =>
      ⟨p, by simpa only [Expr.written] using h, fun _ _ _ => Iff.rfl, fun _ _ => .refl _⟩

theorem Expr.writtenAll_of_resolveAll {fs fs' : Flags} {ps : List Pattern} :
    (es : List Expr) → Expr.resolveAll fs es = .ok (ps, fs') →
      ∃ qs, Expr.writtenAll fs es = .ok (qs, fs') ∧ List.Forall₂ Pattern.Same ps qs ∧
        (Expr.areOrderly fs es = true →
          ∀ text, List.Forall₂ (Pattern.SimplifiesTo text) qs ps)
  | [], h => by
      cases h
      exact ⟨[], rfl, .nil, fun _ _ => .nil⟩
  | e :: es, h => by
      rw [Expr.resolveAll] at h
      obtain ⟨⟨p, fs⟩, hp, h⟩ := exists_of_bind_eq_ok h
      obtain ⟨⟨ps, fs⟩, hps, h⟩ := exists_of_bind_eq_ok h
      cases h
      obtain ⟨q, hq, hsame, horder⟩ := Expr.written_of_resolve e hp
      obtain ⟨qs, hqs, hall, horders⟩ := Expr.writtenAll_of_resolveAll es hps
      refine ⟨q :: qs, ?_, .cons hsame hall, fun ho text => ?_⟩
      · simp only [Expr.writtenAll, hq, bind, Except.bind, hqs]
        rfl
      · rw [Expr.areOrderly, hp, Bool.and_eq_true] at ho
        exact .cons (horder ho.1 text) (horders ho.2 text)

end

/-! ### Compiled patterns

A pattern that compiles is one that was written, resolved and found small enough. The size
of the program says nothing about what it matches, so the statements are about the first
two. -/

/-- The pattern that a text stands for as it is written. -/
def Pattern.written? (source : String) : Except Mistake Pattern := do
  let e ← parse source
  let (p, _) ← e.written Flags.initial
  return p

/-- Whether a text is an expression in which everything that is taken out in front of alternatives
leaves no choice. -/
def isOrderly (source : String) : Bool :=
  match parse source with
  | .ok e => e.isOrderly Flags.initial
  | .error _ => false

/-- A compiled pattern matches what the written one does and, if this is orderly, in the same
order. -/
theorem exists_written_of_compile? {source : String} {re : MailMerge.Regex}
    (h : compile? source = .ok re) :
    ∃ q, Pattern.written? source = .ok q ∧ re.pattern.Same q ∧
      (isOrderly source = true → ∀ text, Pattern.SimplifiesTo text q re.pattern) := by
  obtain ⟨p, hp, -, rfl⟩ := eq_of_compile? h
  unfold Pattern.ofString? at hp
  split at hp
  · cases hp
  · next fs hresolve =>
      cases hp
      obtain ⟨e, he, hp⟩ := exists_of_bind_eq_ok hresolve
      obtain ⟨q, hq, hsame, horder⟩ := e.written_of_resolve hp
      refine ⟨q, ?_, hsame, ?_⟩
      · simp only [Pattern.written?, he, hq, bind, Except.bind]
        rfl
      · rw [isOrderly, he]
        -- the expression is resolved under the flags it was asked for under
        exact horder

/-- What is replaced are the first matches of the compiled pattern, one behind the other, until
there is none any more. The compiled pattern matches what the written one does; and where no start
that leaves a choice is taken out of alternatives, its first matches are those of the written one.
If this repeats no empty text without an upper bound, each of them is the first of all ways through
what is written. -/
theorem replaceAll_leftmostFirst {source : String} {re : MailMerge.Regex}
    (h : compile? source = .ok re) (text replacement : String) :
    ∃ ms q, Pattern.written? source = .ok q ∧
      (re.replaceAll text replacement).toList =
        weave (fun _ => replacement.toList) text.toList.toArray 0 ms ∧
      Scan (re.pattern.LeftmostFirst text.toList.toArray) none ms ∧
      (∀ i j, re.pattern.Matches text.toList.toArray i j ↔ q.Matches text.toList.toArray i j) ∧
      (isOrderly source = true → Scan (q.LeftmostFirst text.toList.toArray) none ms ∧
        (q.Productive text.toList.toArray →
          ∀ m ∈ ms, q.FirstWay text.toList.toArray m.start m.stop)) := by
  obtain ⟨q, hq, hsame, horder⟩ := exists_written_of_compile? h
  have hscan := scan_spansFrom h text.toList.toArray none
  refine ⟨_, q, hq, ?_, hscan, hsame _, fun ho => ?_⟩
  · rw [replaceAll, String.toList_ofList, substituteFrom_eq_weave]
    rfl
  -- both patterns have the same first matches, so one scan is a scan for the other
  · have hiff : re.pattern.LeftmostFirst text.toList.toArray =
        q.LeftmostFirst text.toList.toArray := by
      funext start m
      exact propext (horder ho _).leftmostFirst_iff.symm
    rw [hiff] at hscan
    refine ⟨hscan, fun hp m hm => ?_⟩
    exact (Pattern.firstMatch_iff_of_productive hp).mp (hscan.firstMatch m hm)

/-- With lazy rounds, alternatives that both start with `a`, an alternative for the empty text and a
replacement that is taken literally. -/
theorem replaceAll_leftmostFirst_lazy : ∃ re, compile? "(?:ab*|ac*)+?|" = .ok re ∧ ∃ ms q,
    Pattern.written? "(?:ab*|ac*)+?|" = .ok q ∧
      (re.replaceAll "xab" "$1").toList =
        weave (fun _ => "$1".toList) "xab".toList.toArray 0 ms ∧
      Scan (re.pattern.LeftmostFirst "xab".toList.toArray) none ms ∧
      (∀ i j, re.pattern.Matches "xab".toList.toArray i j ↔ q.Matches "xab".toList.toArray i j) ∧
      Scan (q.LeftmostFirst "xab".toList.toArray) none ms ∧
      ∀ m ∈ ms, q.FirstWay "xab".toList.toArray m.start m.stop := by
  cases h : compile? "(?:ab*|ac*)+?|" with
  | error e =>
      have hok : (compile? "(?:ab*|ac*)+?|").isOk = true := by cbv
      simp [h, Except.isOk, Except.toBool] at hok
  | ok re =>
      -- the general statement, then its two hypotheses: the expression is orderly, and no
      -- round of it is empty without an end
      obtain ⟨ms, q, hq, hweave, hscan, hsame, hwritten⟩ := replaceAll_leftmostFirst h "xab" "$1"
      obtain ⟨hscan', hfirst⟩ := hwritten (by cbv)
      refine ⟨re, rfl, ms, q, hq, hweave, hscan, hsame, hscan', hfirst ?_⟩
      let many (c : Char) : Pattern := .repeated true 0 none (.chars (.single c))
      let from_a (c : Char) : Pattern := .seq (.chars (.single 'a')) (many c)
      have hq' : Pattern.written? "(?:ab*|ac*)+?|" =
          .ok (.alt (.repeated false 1 none (.alt (from_a 'b') (from_a 'c'))) .empty) := by cbv
      obtain rfl := Except.ok.inj (hq.symm.trans hq')
      have hfrom (c : Char) (i : Nat) : ¬ (from_a c).Matches "xab".toList.toArray i i := by
        rw [Pattern.matches_seq]
        -- a round of `ab*` is at least the `a`
        rintro ⟨k, hk, hrest⟩
        obtain ⟨-, rfl⟩ := Pattern.matches_chars.mp hk
        exact absurd hrest.le (Nat.not_succ_le_self i)
      have hmany (c : Char) : (from_a c).Productive "xab".toList.toArray :=
        ⟨trivial, trivial, fun i h => Nat.succ_ne_self i (Pattern.matches_chars.mp h).2.symm⟩
      exact ⟨⟨⟨hmany 'b', hmany 'c'⟩, fun i h =>
        (Pattern.matches_alt.mp h).elim (hfrom 'b' i) (hfrom 'c' i)⟩, trivial⟩

/-- In `a?a|a?b` both alternatives start with `a?`. The written pattern first matches `a` in `ab`:
the first alternative does so once `a?` has given up its `a`. With `a?` before the alternatives the
match goes on with `b` instead. -/
theorem common_start_changes_preference : ∃ re q, compile? "a?a|a?b" = .ok re ∧
    Pattern.written? "a?a|a?b" = .ok q ∧ re.spans #['a', 'b'] = [⟨0, 2⟩] ∧
    re.replaceAll "ab" "X" = "X" ∧ q.LeftmostFirst #['a', 'b'] 0 ⟨0, 1⟩ ∧
    ¬ q.LeftmostFirst #['a', 'b'] 0 ⟨0, 2⟩ ∧ isOrderly "a?a|a?b" = false := by
  -- the pattern as it is compiled: the common `a?`, and `b` and `a` joined to a class behind it
  let a : Pattern := .chars (.single 'a')
  let optional : Pattern := .repeated true 0 (some 1) a
  let re : MailMerge.Regex := {
    source := "a?a|a?b"
    pattern := .seq optional (.chars ⟨⟨[⟨97, 98⟩]⟩, .chars⟩)
    entry := 3
    program := #[.accept, .chars ⟨[⟨97, 98⟩]⟩ 0, .chars (.single 'a') 1, .split 2 1] }
  -- and as it is written
  let q : Pattern := .alt (.seq optional a) (.seq optional (.chars (.single 'b')))
  have hspans : re.spans #['a', 'b'] = [⟨0, 2⟩] := by
    have hfirst : re.findNext #['a', 'b'] 0 none = some ⟨0, 2⟩ := by cbv
    have hrest : re.findNext #['a', 'b'] 2 (some 2) = none := by cbv
    rw [spans, spansFrom_of_findNext_eq_some hfirst, spansFrom_of_findNext_eq_none hrest]
  have hq : q.LeftmostFirst #['a', 'b'] 0 ⟨0, 1⟩ := Pattern.leftmostFirst_of_firstMatch (by cbv)
  refine ⟨re, q, by cbv, by cbv, hspans, ?_, hq, fun h => ?_, by cbv⟩
  · rw [replaceAll]
    simp [hspans, substituteFrom]
  · cases hq.unique h

end MailMerge.Regex
