import Mathlib
import MailMerge.Proofs.Regex.Leftmost

/-!
# One match after the other

Which stretches of a text replacement replaces (`Scan`): each is the first match from the end of the
one before, but an empty match that touches the one before is passed over. They are the same for all
replacements, and what is between them stays as it is (`replaceAll_eq_weave`).
-/

namespace MailMerge.Regex

variable {first : Nat → Match → Prop} {last : Option Nat} {l m n : Match} {ms ns : List Match}

/-! ### Scans

What a scan is does not depend on what matches are found by: it is said for any account of
the first match from a position on. If that account is unambiguous, so is the scan, since
each match settles where the next one is looked for. -/

/-- Whether an empty match stands where the one before ended. -/
def Match.Touches (m : Match) (last : Option Nat) : Prop := m.start = m.stop ∧ last = some m.start

/-- The match behind one that ends at `last`, or the first of all. Here `first i m` says that `m` is
the first match from `i` on. -/
inductive NextSpan (first : Nat → Match → Prop) (last : Option Nat) (m : Match) : Prop where
  | found : first (last.getD 0) m → ¬ m.Touches last → NextSpan first last m
  | passed {e : Match} : first (last.getD 0) e → e.Touches last → first (last.getD 0 + 1) m →
      NextSpan first last m

/-- The matches behind one that ends at `last`, or all of them. -/
inductive Scan (first : Nat → Match → Prop) : Option Nat → List Match → Prop where
  | done {last : Option Nat} : (∀ m, ¬ NextSpan first last m) → Scan first last []
  | span {last : Option Nat} {m : Match} {ms : List Match} : NextSpan first last m →
      Scan first (some m.stop) ms → Scan first last (m :: ms)

theorem Match.touches_iff : m.Touches last ↔ m.start = m.stop ∧ last = some m.stop := by
  constructor
  · rintro ⟨hempty, hlast⟩
    exact ⟨hempty, hempty ▸ hlast⟩
  · rintro ⟨hempty, hlast⟩
    exact ⟨hempty, hempty ▸ hlast⟩

theorem NextSpan.unique (hfirst : ∀ i m n, first i m → first i n → m = n)
    (hm : NextSpan first last m) (hn : NextSpan first last n) : m = n := by
  cases hm with
  | found hm hnot =>
      cases hn with
      | found hn => exact hfirst _ _ _ hm hn
      -- the one match would touch the end and not touch it
      | passed he htouch => exact absurd (hfirst _ _ _ hm he ▸ htouch) hnot
  | passed he htouch hm =>
      cases hn with
      | found hn hnot => exact absurd (hfirst _ _ _ he hn ▸ htouch) hnot
      | passed _ _ hn => exact hfirst _ _ _ hm hn

theorem Scan.unique (hfirst : ∀ i m n, first i m → first i n → m = n) (hm : Scan first last ms)
    (hn : Scan first last ns) : ms = ns := by
  induction hm generalizing ns with
  | done hno =>
      cases hn with
      | done => rfl
      | span hn => exact absurd hn (hno _)
  | span hm _ ih =>
      cases hn with
      | done hno => exact absurd hm (hno _)
      | span hn hrest =>
          obtain rfl := hm.unique hfirst hn
          rw [ih hrest]

/-- A match starts behind another, without overlap, and is not an empty one at its end. -/
structure Match.Before (m n : Match) : Prop where
  start_lt : m.start < n.start
  stop_le : m.stop ≤ n.start
  not_touches : ¬ n.Touches (some m.stop)

theorem Match.Before.trans (hlm : l.Before m) (hmn : m.Before n) : l.Before n := by
  have := hlm.stop_le
  have := hmn.start_lt
  refine ⟨Nat.lt_trans hlm.start_lt hmn.start_lt, by omega, ?_⟩
  rintro ⟨-, h⟩
  rw [Option.some.injEq] at h
  omega

/-! ### What is put in their place

A list of matches cuts a text into the stretches between them and the matches themselves. To
put something in the place of the matches leaves the stretches as they are, whatever it is. -/

/-- A text from a position on, with what `put` says in the place of each match. -/
def weave (put : Match → List Char) (text : Array Char) (pos : Nat) : List Match → List Char
  | [] => text.toList.drop pos
  | m :: ms => (text.extract pos m.start).toList ++ put m ++ weave put text m.stop ms

theorem substituteFrom_eq_weave (replacement : List Char) (text : Array Char) (pos : Nat)
    (ms : List Match) :
    substituteFrom replacement text pos ms = weave (fun _ => replacement) text pos ms := by
  induction ms generalizing pos with
  | nil => rfl
  | cons m ms ih => rw [substituteFrom, weave, ih]

/-- With their own text in the place of all matches, the text is the same. -/
theorem weave_self {text : Array Char} {pos : Nat} (hms : ms.Pairwise Match.Before)
    (hle : ∀ m ∈ ms, pos ≤ m.start ∧ m.start ≤ m.stop) :
    weave (fun m => (text.extract m.start m.stop).toList) text pos ms = text.toList.drop pos := by
  induction ms generalizing pos with
  | nil => rfl
  | cons m ms ih =>
      obtain ⟨hm, hms⟩ := List.pairwise_cons.mp hms
      obtain ⟨hpos, hstop⟩ := hle m List.mem_cons_self
      rw [weave, ih hms fun n hn => ⟨(hm n hn).stop_le, (hle n (List.mem_cons_of_mem _ hn)).2⟩]
      simp only [Array.toList_extract, List.extract_eq_take_drop]
      -- the gap before the match, the match, and the text behind it are put together again
      have hown := List.take_append_drop (m.stop - m.start) (text.toList.drop m.start)
      have hgap := List.take_append_drop (m.start - pos) (text.toList.drop pos)
      rw [List.drop_drop, Nat.add_sub_cancel' hstop] at hown
      rw [List.drop_drop, Nat.add_sub_cancel' hpos] at hgap
      rw [List.append_assoc, hown, hgap]

/-! ### Compiled patterns

For a compiled pattern the account is `LeftmostFirst`, which `find` decides. The search for
a further match goes by the end of the last one and tells an empty match that touches it;
that is how `NextSpan` looks on. -/

variable {text : Array Char} {p : Pattern} {source : String} {re : MailMerge.Regex}

/-- The next match stands behind the one before. -/
theorem NextSpan.before {start : Nat} (hm : p.LeftmostFirst text start m)
    (hn : NextSpan (p.LeftmostFirst text) (some m.stop) n) : m.Before n := by
  have hle := hm.first.matches.le
  cases hn with
  | found hn hnot =>
      rw [Option.getD_some] at hn
      have hstop := hn.start_le
      refine ⟨?_, hstop, hnot⟩
      by_contra hlt
      -- `m` is empty then, and found again
      obtain rfl := hn.unique (hm.mono (Nat.le_trans hm.start_le hle) (by omega))
      exact hnot ⟨by omega, by congr 1; omega⟩
  | passed he htouch hn =>
      have hstop : m.stop + 1 ≤ n.start := hn.start_le
      refine ⟨by omega, by omega, ?_⟩
      rintro ⟨-, h⟩
      rw [Option.some.injEq] at h
      omega

theorem findNext_eq_some_iff (h : compile? source = .ok re) :
    re.findNext text (last.getD 0) last = some m ↔
      NextSpan (re.pattern.LeftmostFirst text) last m := by
  unfold findNext
  constructor
  · intro hm
    split at hm
    · cases hm
    · next e he =>
        split at hm
        · next htouch =>
            exact .passed ((find_eq_some_iff h).mp he) (Match.touches_iff.mpr htouch)
              ((find_eq_some_iff h).mp hm)
        · next htouch =>
            obtain rfl := Option.some.inj hm
            exact .found ((find_eq_some_iff h).mp he) (Match.touches_iff.not.mpr htouch)
  · rintro (⟨hm, hnot⟩ | ⟨he, htouch, hm⟩)
    · simp only [(find_eq_some_iff h).mpr hm, if_neg (Match.touches_iff.not.mp hnot)]
    · simp only [(find_eq_some_iff h).mpr he, if_pos (Match.touches_iff.mp htouch)]
      exact (find_eq_some_iff h).mpr hm

theorem spansFrom_of_findNext_eq_none {start : Nat} (h : re.findNext text start last = none) :
    re.spansFrom text start last = [] := by
  rw [spansFrom]
  split
  · rfl
  · next hm => cases h.symm.trans hm

theorem spansFrom_of_findNext_eq_some {start : Nat} (h : re.findNext text start last = some m) :
    re.spansFrom text start last = m :: re.spansFrom text m.stop (some m.stop) := by
  rw [spansFrom]
  split
  · next hno => cases h.symm.trans hno
  · next hm =>
      cases h.symm.trans hm
      rfl

/-- The matches that replacement replaces are those of the scan. -/
theorem scan_spansFrom (h : compile? source = .ok re) (text : Array Char) (last : Option Nat) :
    Scan (re.pattern.LeftmostFirst text) last (re.spansFrom text (last.getD 0) last) := by
  generalize hstart : last.getD 0 = start
  fun_induction re.spansFrom text start last with
  | case1 start last hnone =>
      subst hstart
      refine .done fun m hm => ?_
      simp [(findNext_eq_some_iff h).mpr hm] at hnone
  | case2 start last m hsome ih =>
      subst hstart
      exact .span ((findNext_eq_some_iff h).mp hsome) (ih rfl)

theorem NextSpan.exists_leftmostFirst (h : NextSpan (p.LeftmostFirst text) last m) :
    ∃ start, p.LeftmostFirst text start m := by
  cases h with
  | found h => exact ⟨_, h⟩
  | passed _ _ h => exact ⟨_, h⟩

/-- What a scan finds are first matches. -/
theorem Scan.firstMatch (h : Scan (p.LeftmostFirst text) last ms) :
    ∀ m ∈ ms, p.FirstMatch text m.start m.stop := by
  induction h with
  | done => simp
  | span hm _ ih =>
      obtain ⟨start, hm⟩ := hm.exists_leftmostFirst
      exact List.forall_mem_cons.mpr ⟨hm.first, ih⟩

/-- What a scan finds behind a match stands behind it, in order. -/
theorem Scan.pairwise_cons {start : Nat} (hm : p.LeftmostFirst text start m)
    (h : Scan (p.LeftmostFirst text) (some m.stop) ms) : (m :: ms).Pairwise Match.Before := by
  generalize hlast : some m.stop = last at h
  induction h generalizing m start with
  | done => exact List.pairwise_singleton _ _
  | @span last n ms hn _ ih =>
      subst hlast
      obtain ⟨start', hn'⟩ := hn.exists_leftmostFirst
      have hrest := ih hn' rfl
      have hbefore := hn.before hm
      refine List.pairwise_cons.mpr ⟨List.forall_mem_cons.mpr ⟨hbefore, fun l hl => ?_⟩, hrest⟩
      exact hbefore.trans ((List.pairwise_cons.mp hrest).1 l hl)

theorem Scan.pairwise (h : Scan (p.LeftmostFirst text) last ms) : ms.Pairwise Match.Before := by
  cases h with
  | done => exact .nil
  | span hm hrest =>
      obtain ⟨start, hm⟩ := hm.exists_leftmostFirst
      exact hrest.pairwise_cons hm

/-- At each position of the text at most one match starts. -/
theorem length_le_of_pairwise_before (hms : ms.Pairwise Match.Before)
    (hle : ∀ m ∈ ms, m.start ≤ text.size) : ms.length ≤ text.size + 1 := by
  have hnodup : (ms.map Match.start).Nodup :=
    List.pairwise_map.mpr (hms.imp fun hbefore => Nat.ne_of_lt hbefore.start_lt)
  have hsub : ms.map Match.start ⊆ List.range (text.size + 1) := by
    intro i hi
    obtain ⟨m, hm, rfl⟩ := List.mem_map.mp hi
    exact List.mem_range.mpr (Nat.lt_succ_of_le (hle m hm))
  simpa using (List.subperm_of_subset hnodup hsub).length_le

/-- For each text there is one list of matches, whatever the replacement: the one that the scan
finds. Replacing puts the replacement in their place and keeps the text between them. -/
theorem replaceAll_eq_weave (h : compile? source = .ok re) (text : String) :
    ∃ ms : List Match,
      (∀ ns, Scan (re.pattern.LeftmostFirst text.toList.toArray) none ns ↔ ns = ms) ∧
      (∀ replacement : String, (re.replaceAll text replacement).toList =
        weave (fun _ => replacement.toList) text.toList.toArray 0 ms) ∧
      weave (fun m => (text.toList.toArray.extract m.start m.stop).toList)
        text.toList.toArray 0 ms = text.toList ∧
      ms.Pairwise Match.Before ∧ (∀ m ∈ ms, m.start ≤ m.stop ∧ m.stop ≤ text.length) ∧
      ms.length ≤ text.length + 1 := by
  generalize htext : text.toList.toArray = chars
  have hsize : chars.size = text.length := by rw [← htext, List.size_toArray, String.length_toList]
  have hscan := scan_spansFrom h chars none
  have hmatches (m : Match) (hm : m ∈ re.spans chars) := (hscan.firstMatch m hm).matches
  have hpairwise : (re.spans chars).Pairwise Match.Before := hscan.pairwise
  refine ⟨re.spans chars, fun ns => ?_, fun replacement => ?_, ?_, hpairwise, ?_, ?_⟩
  · constructor
    · intro hns
      exact hns.unique (fun _ _ _ hm hn => hm.unique hn) hscan
    · rintro rfl
      exact hscan
  · rw [replaceAll, String.toList_ofList, htext, substituteFrom_eq_weave]
  · rw [weave_self hpairwise fun m hm => ⟨Nat.zero_le _, (hmatches m hm).le⟩, ← htext]
    rfl
  · exact fun m hm => ⟨(hmatches m hm).le, hsize ▸ (hmatches m hm).le_size⟩
  · rw [← hsize]
    exact length_le_of_pairwise_before hpairwise fun m hm => (hmatches m hm).1

/-- In `baac` the pattern `a*` matches the empty text before `b`, then `aa`, and the empty text at
the end; the empty match right behind `aa` is passed over. -/
theorem replaceAll_eq_weave_star : ∃ re, compile? "a*" = .ok re ∧
    (∀ ns, Scan (re.pattern.LeftmostFirst "baac".toList.toArray) none ns ↔
      ns = [⟨0, 0⟩, ⟨1, 3⟩, ⟨4, 4⟩]) ∧
    ∀ replacement : String, (re.replaceAll "baac" replacement).toList =
      replacement.toList ++ 'b' :: replacement.toList ++ 'c' :: replacement.toList := by
  let re : MailMerge.Regex := {
    source := "a*"
    pattern := .repeated true 0 none (.chars (.single 'a'))
    entry := 3
    program := #[.accept, .split 2 0, .chars (.single 'a') 1, .split 2 0] }
  have hre : compile? "a*" = .ok re := by cbv
  have hspans : re.spans #['b', 'a', 'a', 'c'] = [⟨0, 0⟩, ⟨1, 3⟩, ⟨4, 4⟩] := by
    have hfirst : re.findNext #['b', 'a', 'a', 'c'] 0 none = some ⟨0, 0⟩ := by cbv
    have hsecond : re.findNext #['b', 'a', 'a', 'c'] 0 (some 0) = some ⟨1, 3⟩ := by cbv
    have hthird : re.findNext #['b', 'a', 'a', 'c'] 3 (some 3) = some ⟨4, 4⟩ := by cbv
    have hrest : re.findNext #['b', 'a', 'a', 'c'] 4 (some 4) = none := by cbv
    rw [spans, spansFrom_of_findNext_eq_some hfirst, spansFrom_of_findNext_eq_some hsecond,
      spansFrom_of_findNext_eq_some hthird, spansFrom_of_findNext_eq_none hrest]
  -- the spans are evaluated, and the theorem tells that they are the scan
  obtain ⟨ms, hms, hreplace, -⟩ := replaceAll_eq_weave hre "baac"
  obtain rfl : re.spans "baac".toList.toArray = ms := (hms _).mp (scan_spansFrom hre _ none)
  refine ⟨re, hre, fun ns => ?_, fun replacement => ?_⟩
  · rw [hms ns]
    exact iff_of_eq (congrArg _ hspans)
  · rw [hreplace]
    simp [hspans, weave]

end MailMerge.Regex
