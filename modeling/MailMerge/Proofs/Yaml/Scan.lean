import MailMerge.Yaml.Token

/-!
# Steps of the YAML scanner

One equation for each part of a step: passing the gap, dropping stale keys, closing blocks, reading
the token (`run?_next`). What a step does not touch is said beside each part.
-/

namespace MailMerge.Yaml

namespace Cursor

variable {c : Cursor}

theorem skipWhile_of_head? {p : Char → Bool} (h : ∀ ch ∈ c.rest.head?, p ch = false) :
    c.skipWhile p = c := by
  obtain ⟨rest, index, line, column⟩ := c
  cases rest with
  | nil => rfl
  | cons ch rest =>
      have hch : p ch = false := h ch rfl
      simp [skipWhile, skipMany, hch]

theorem rest_skipWhile (p : Char → Bool) : (c.skipWhile p).rest = c.rest.dropWhile p := by
  unfold skipWhile skipMany
  dsimp only
  induction c.rest with
  | nil => rfl
  | cons ch rest ih =>
      rw [List.takeWhile_cons, List.dropWhile_cons]
      split
      · exact ih
      · rfl

theorem rest_skipLine {cs : List Char} (h : c.rest = '\n' :: cs) : c.skipLine.rest = cs := by
  simp [skipLine, h]

end Cursor

namespace Scan

variable {s s' : Scan}

/-! ### Blocks

A block ends where a line is indented less than the block. Inside brackets there are no
blocks, so there, and where no block is open, the indentation changes nothing. -/

@[simp] theorem c_closeTo (s : Scan) (column : Int) : (s.closeTo column).c = s.c := by
  unfold closeTo
  split <;> rfl

theorem closeTo_of_inFlow (h : s.inFlow = true) (column : Int) : s.closeTo column = s := by
  rw [closeTo, if_pos h]

theorem closeTo_of_le {column : Int} (h : s.indent ≤ column) : s.closeTo column = s := by
  unfold closeTo
  split
  · rfl
  · have hblocks : closeBlocks column s.tokens s.indent s.outer =
        (s.tokens, s.indent, s.outer) := by
      cases s.outer with
      | nil => rfl
      | cons up outer => rw [closeBlocks, if_neg (Int.not_lt.mpr h)]
    rw [hblocks]

theorem closeTo_of_outer_eq_nil (h : s.outer = []) (column : Int) : s.closeTo column = s := by
  obtain ⟨c, tokens, indent, outer, keyAllowed, key, outerKeys⟩ := s
  dsimp only at h
  subst h
  unfold closeTo
  split <;> rfl

/-! ### Keys

The place of a text that may turn out to be a key is kept until it is too far behind. To
forget it, or to save another, changes nothing of a scan but the kept places. -/

theorem dropStale?_of_fresh (hkey : ∀ k, s.key = some k → PossibleKey.isStale s.c k = false)
    (houter : s.outerKeys = []) : s.dropStale? = some s := by
  obtain ⟨c, tokens, indent, outer, keyAllowed, key, outerKeys⟩ := s
  dsimp only at houter
  subst houter
  cases key with
  | none => rfl
  | some k =>
      have hk : PossibleKey.isStale c k = false := hkey k rfl
      simp [dropStale?, hk]

theorem dropStale?_eq_some (h : s.dropStale? = some s') :
    ∃ key outerKeys, s' = { s with key, outerKeys } ∧ s'.inFlow = s.inFlow := by
  unfold dropStale? at h
  dsimp only at h
  split at h
  · cases h
  · obtain rfl := Option.some.inj h
    exact ⟨_, _, rfl, by simp [inFlow]⟩

theorem dropKey?_eq_some (h : s.dropKey? = some s') : s' = { s with key := none } := by
  unfold dropKey? at h
  split at h
  · cases h
  · exact (Option.some.inj h).symm

theorem saveKey?_eq_some (h : s.saveKey? = some s') : ∃ key, s' = { s with key } := by
  unfold saveKey? at h
  split at h
  · cases hdrop : s.dropKey? with
    | none =>
        rw [hdrop] at h
        cases h
    | some s₁ =>
        rw [hdrop, dropKey?_eq_some hdrop] at h
        exact ⟨_, (Option.some.inj h).symm⟩
  · obtain rfl := Option.some.inj h
    exact ⟨s.key, rfl⟩

/-! ### Gaps

Between two tokens stand blanks, line breaks and comments. The scanner passes the blanks of
one line at a time (`skipGapFrom_cons`); from this follows what it passes of a gap without
comments, all at once (`skipGap_eq`). -/

/-- Whether a character may begin what stands between two tokens. -/
def beginsGap (ch : Char) : Bool := isBlank ch || isBreak ch || ch = '#' || ch = '\uFEFF'

theorem looksAt_eq_false {c : Cursor} {mark : Char} (h : ∀ ch ∈ c.rest.head?, ch ≠ mark) :
    c.looksAt mark = false := by
  unfold Cursor.looksAt Cursor.peek?
  cases hhead : c.rest.head? with
  | none => rfl
  | some ch => simpa using h ch hhead

theorem atBreak_eq_false {c : Cursor} (h : ∀ ch ∈ c.rest.head?, isBreak ch = false) :
    c.atBreak = false := by
  unfold Cursor.atBreak Cursor.peek?
  cases hhead : c.rest.head? with
  | none => rfl
  | some ch => exact h ch hhead

theorem not_beginsGap {ch : Char} (h : beginsGap ch = false) :
    ch ≠ ' ' ∧ ch ≠ '\t' ∧ isBreak ch = false ∧ ch ≠ '#' ∧ ch ≠ '\uFEFF' := by
  simpa [beginsGap, isBlank, and_assoc] using h

/-- Whether a character passes for a blank between two tokens. -/
def passesBlank (s : Scan) (ch : Char) : Bool :=
  ch = ' ' || ((s.inFlow || !s.keyAllowed) && ch = '\t')

/-- Without a comment, blanks are passed, and then a line break if there is one. -/
theorem skipGapFrom_cons {u : Unit} {bound : List Unit}
    (h : (s.c.skipWhile (passesBlank s)).looksAt '#' = false) :
    skipGapFrom (u :: bound) s =
      if (s.c.skipWhile (passesBlank s)).atBreak then
        skipGapFrom bound { s with
          c := (s.c.skipWhile (passesBlank s)).skipLine, keyAllowed := s.keyAllowed || !s.inFlow }
      else { s with c := s.c.skipWhile (passesBlank s) } := by
  have hcomment : (s.c.skipWhile fun ch =>
      ch = ' ' || ((s.inFlow || !s.keyAllowed) && ch = '\t')).looksAt '#' = false := h
  simp only [skipGapFrom, hcomment, Bool.false_eq_true, if_false]
  rfl

/-- Nothing is passed where no gap begins. -/
theorem skipGapFrom_of_stop (bound : List Unit) (h : ∀ ch ∈ s.c.rest.head?, beginsGap ch = false) :
    skipGapFrom bound s = s := by
  cases bound with
  | nil => rfl
  | cons u bound =>
      have hskip : s.c.skipWhile (passesBlank s) = s.c := by
        refine Cursor.skipWhile_of_head? fun ch hch => ?_
        obtain ⟨hblank, htab, -⟩ := not_beginsGap (h ch hch)
        simp [passesBlank, hblank, htab]
      have hcomment : s.c.looksAt '#' = false :=
        looksAt_eq_false fun ch hch => (not_beginsGap (h ch hch)).2.2.2.1
      have hbreak : s.c.atBreak = false :=
        atBreak_eq_false fun ch hch => (not_beginsGap (h ch hch)).2.2.1
      rw [skipGapFrom_cons (by rw [hskip, hcomment]), hskip, hbreak]
      rfl

theorem skipGap_of_head? (h : ∀ ch ∈ s.c.rest.head?, ch ≠ '\uFEFF') :
    s.skipGap = skipGapFrom (List.replicate (s.c.rest.length + 1) ()) s := by
  have hmark := looksAt_eq_false h
  simp [skipGap, hmark]

theorem skipGap_of_stop (h : ∀ ch ∈ s.c.rest.head?, beginsGap ch = false) : s.skipGap = s := by
  rw [skipGap_of_head? fun ch hch => (not_beginsGap (h ch hch)).2.2.2.2]
  exact skipGapFrom_of_stop _ h

/-- One blank is passed. -/
theorem skipGap_blank {rest : List Char} (hrest : s.c.rest = ' ' :: rest)
    (h : ∀ ch ∈ rest.head?, beginsGap ch = false) : s.skipGap = { s with c := s.c.skip } := by
  have hskip : s.c.skipWhile (passesBlank s) = s.c.skip := by
    have htake : rest.takeWhile (passesBlank s) = [] := by
      cases rest with
      | nil => rfl
      | cons ch rest =>
          obtain ⟨hblank, htab, -⟩ := not_beginsGap (h ch rfl)
          simp [passesBlank, hblank, htab]
    unfold Cursor.skipWhile
    rw [hrest, List.takeWhile_cons, if_pos (by simp [passesBlank]), htake]
    rfl
  have hbehind : s.c.skip.rest = rest := by
    rw [Cursor.skip, hrest]
    rfl
  have hcomment : s.c.skip.looksAt '#' = false :=
    looksAt_eq_false fun ch hch => (not_beginsGap (h ch (hbehind ▸ hch))).2.2.2.1
  have hbreak : s.c.skip.atBreak = false :=
    atBreak_eq_false fun ch hch => (not_beginsGap (h ch (hbehind ▸ hch))).2.2.1
  rw [skipGap_of_head? (by simp [hrest]), List.replicate_succ,
    skipGapFrom_cons (by rw [hskip, hcomment]), hskip, hbreak]
  rfl

/-- One line feed is passed, and a key may follow outside of brackets. -/
theorem skipGap_line {rest : List Char} (hrest : s.c.rest = '\n' :: rest)
    (h : ∀ ch ∈ rest.head?, beginsGap ch = false) :
    s.skipGap = { s with c := s.c.skipLine, keyAllowed := s.keyAllowed || !s.inFlow } := by
  have hskip : s.c.skipWhile (passesBlank s) = s.c :=
    Cursor.skipWhile_of_head? fun ch hch => by
      rw [hrest] at hch
      obtain rfl := Option.some.inj hch
      simp [passesBlank]
  have hcomment : s.c.looksAt '#' = false := looksAt_eq_false (by simp [hrest])
  have hbreak : s.c.atBreak = true := by simp [Cursor.atBreak, Cursor.peek?, hrest, isBreak]
  have hbehind : s.c.skipLine.rest = rest := Cursor.rest_skipLine hrest
  rw [skipGap_of_head? (by simp [hrest]), List.replicate_succ,
    skipGapFrom_cons (by rw [hskip, hcomment]), hskip, if_pos hbreak]
  exact skipGapFrom_of_stop _ fun ch hch => h ch (hbehind ▸ hch)

/-- Whether a character without a comment is passed between two tokens. -/
def isPassed (inFlow : Bool) (ch : Char) : Bool :=
  ch = ' ' || ch = '\n' || ch = '\r' || (inFlow && ch = '\t')

theorem dropWhile_dropWhile_of_imp {p q : Char → Bool} (h : ∀ ch, p ch = true → q ch = true)
    (cs : List Char) : (cs.dropWhile p).dropWhile q = cs.dropWhile q := by
  induction cs with
  | nil => rfl
  | cons ch cs ih =>
      cases hp : p ch with
      | false => rw [List.dropWhile_cons, hp]; rfl
      | true => rw [List.dropWhile_cons, if_pos hp, ih, List.dropWhile_cons, if_pos (h ch hp)]

theorem dropWhile_of_head? {p : Char → Bool} {cs : List Char} (h : ∀ ch ∈ cs.head?, p ch = false) :
    cs.dropWhile p = cs := by
  cases cs with
  | nil => rfl
  | cons ch cs => rw [List.dropWhile_cons, h ch rfl]; rfl

/-- A line break of a passed character is passed whole. -/
theorem dropWhile_skipLine {c : Cursor} {inFlow : Bool} {ch : Char} {rest : List Char}
    (hrest : c.rest = ch :: rest) (hch : isPassed inFlow ch = true) :
    c.skipLine.rest.dropWhile (isPassed inFlow) = c.rest.dropWhile (isPassed inFlow) ∧
      c.skipLine.rest.length < c.rest.length := by
  unfold Cursor.skipLine
  dsimp only
  -- a carriage return and a line feed count as one break: both are passed together
  split
  · next htwo =>
    rw [hrest, List.isPrefixOf_iff_prefix] at htwo
    obtain ⟨rest', hrest'⟩ := htwo
    obtain ⟨rfl, rfl⟩ := List.cons.inj hrest'
    rw [hrest]
    refine ⟨by simp [isPassed], ?_⟩
    simp only [List.length_drop, List.length_cons]
    omega
  · simp [hrest, hch]

theorem passesBlank_isPassed (hkey : s.inFlow = true ∨ s.keyAllowed = true) {ch : Char}
    (h : passesBlank s ch = true) : isPassed s.inFlow ch = true := by
  unfold passesBlank at h
  unfold isPassed
  cases hflow : s.inFlow with
  | true =>
      simp only [hflow, Bool.true_or, Bool.true_and, Bool.or_eq_true, decide_eq_true_eq] at h ⊢
      rcases h with rfl | rfl <;> simp
  | false =>
      -- outside of brackets a tab is passed as a blank only where
      -- no key may start, and one may here
      have hallowed : s.keyAllowed = true := by simpa [hflow] using hkey
      simp only [hflow, hallowed, Bool.not_true, Bool.or_false, Bool.false_and,
        decide_eq_true_eq] at h
      simp [h]

theorem isPassed_eq_false {ch : Char} (hblank : passesBlank s ch = false)
    (hbreak : isBreak ch = false) : isPassed s.inFlow ch = false := by
  cases hpassed : isPassed s.inFlow ch with
  | false => rfl
  | true =>
      simp only [isPassed, Bool.or_eq_true, Bool.and_eq_true, decide_eq_true_eq] at hpassed
      rcases hpassed with ((rfl | rfl) | rfl) | ⟨hflow, rfl⟩
      · simp [passesBlank] at hblank
      · cases hbreak
      · cases hbreak
      · simp [passesBlank, hflow] at hblank

/-- Where no comment and no other line break follows, space is passed and nothing else. -/
theorem skipGapFrom_eq {bound : List Unit} (hbound : s.c.rest.length < bound.length)
    (hkey : s.inFlow = true ∨ s.keyAllowed = true)
    (hstop : ∀ ch ∈ (s.c.rest.dropWhile (isPassed s.inFlow)).head?, isBreak ch = false ∧ ch ≠ '#') :
    ∃ c, skipGapFrom bound s = { s with c } ∧
      c.rest = s.c.rest.dropWhile (isPassed s.inFlow) := by
  -- the induction is on the bound; each turn passes the blanks of one line and its break
  induction bound generalizing s with
  | nil => exact absurd hbound (Nat.not_lt_zero _)
  | cons u bound ih =>
      have hblank : ∀ ch, passesBlank s ch = true → isPassed s.inFlow ch = true :=
        fun ch => passesBlank_isPassed hkey
      have hrest : (s.c.skipWhile (passesBlank s)).rest = s.c.rest.dropWhile (passesBlank s) :=
        Cursor.rest_skipWhile _
      have hpassed : (s.c.skipWhile (passesBlank s)).rest.dropWhile (isPassed s.inFlow) =
          s.c.rest.dropWhile (isPassed s.inFlow) := by
        rw [hrest, dropWhile_dropWhile_of_imp hblank]
      -- behind the blanks stands a line break that is passed, or the end of the gap
      have hhead : ∀ ch ∈ (s.c.skipWhile (passesBlank s)).rest.head?, isPassed s.inFlow ch = false →
          isBreak ch = false ∧ ch ≠ '#' := by
        intro ch hch hnot
        refine hstop ch ?_
        rw [← hpassed, dropWhile_of_head?]
        · exact hch
        · intro ch' hch'
          rw [hch] at hch'
          exact Option.some.inj hch' ▸ hnot
      have hcomment : (s.c.skipWhile (passesBlank s)).looksAt '#' = false := by
        refine looksAt_eq_false fun ch hch => ?_
        rintro rfl
        exact (hhead '#' hch (by simp [isPassed])).2 rfl
      have hshort : (s.c.skipWhile (passesBlank s)).rest.length ≤ s.c.rest.length := by
        rw [hrest]
        exact (List.dropWhile_suffix _).length_le
      rw [skipGapFrom_cons hcomment]
      cases hbreak : (s.c.skipWhile (passesBlank s)).atBreak with
      -- no break behind the blanks: the gap ends here
      | false =>
          refine ⟨_, rfl, ?_⟩
          rw [← hpassed, dropWhile_of_head?]
          intro ch hch
          have hnot : passesBlank s ch = false := by
            have hnot := List.head?_dropWhile_not (passesBlank s) s.c.rest
            rw [← hrest, Option.mem_def.mp hch] at hnot
            simpa using hnot
          have hline : isBreak ch = false := by
            simpa [Cursor.atBreak, Cursor.peek?, Option.mem_def.mp hch] using hbreak
          exact isPassed_eq_false hnot hline
      -- a break: it is passed with the blanks, and the rest of the gap is as long as before
      | true =>
          obtain ⟨ch, hch, hline⟩ : ∃ ch, (s.c.skipWhile (passesBlank s)).rest.head? = some ch ∧
              isBreak ch = true := by
            simpa [Cursor.atBreak, Cursor.peek?, Option.any_eq_true] using hbreak
          have hch' : isPassed s.inFlow ch = true := by
            cases hnot : isPassed s.inFlow ch with
            | true => rfl
            | false =>
                rw [(hhead ch hch hnot).1] at hline
                cases hline
          obtain ⟨rest, hr⟩ := List.head?_eq_some_iff.mp hch
          obtain ⟨hsame, hlt⟩ := dropWhile_skipLine hr hch'
          have hallowed : (s.keyAllowed || !s.inFlow) = s.keyAllowed := by
            rcases hkey with hkey | hkey <;> simp [hkey]
          rw [if_pos rfl, hallowed]
          rw [← hpassed, ← hsame] at hstop
          obtain ⟨c, hc, hcrest⟩ := @ih { s with c := (s.c.skipWhile (passesBlank s)).skipLine }
            (by simp only [List.length_cons] at hbound; dsimp only; omega) hkey hstop
          exact ⟨c, hc, by rw [hcrest, ← hpassed, ← hsame]; rfl⟩

/-- Where no comment and no other line break follows, the gap is the space. -/
theorem skipGap_eq (hkey : s.inFlow = true ∨ s.keyAllowed = true)
    (hmark : s.c.rest.head? ≠ some '\uFEFF')
    (hstop : ∀ ch ∈ (s.c.rest.dropWhile (isPassed s.inFlow)).head?, isBreak ch = false ∧ ch ≠ '#') :
    ∃ c, s.skipGap = { s with c } ∧ c.rest = s.c.rest.dropWhile (isPassed s.inFlow) := by
  rw [skipGap_of_head? fun ch hch heq => hmark (heq ▸ hch)]
  exact skipGapFrom_eq (by simp) hkey hstop

/-! ### One step -/

/-- One step of a run: the gap, the keys that have become stale, the blocks that end, the token. -/
theorem run?_next {here after : Scan} {ch : Char} {rest : List Char}
    (hhere : s.skipGap.dropStale? = some here) (hrest : here.c.rest = ch :: rest)
    (hnext : next? (here.closeTo here.c.column) ch = some after)
    (hlt : after.c.rest.length < s.c.rest.length) : run? s = run? after := by
  rw [run?]
  split
  · next h =>
    rw [hhere] at h
    cases h
  · next here' h =>
    rw [hhere] at h
    obtain rfl := Option.some.inj h
    dsimp only
    split
    · next h =>
      rw [c_closeTo, hrest] at h
      cases h
    · next ch' rest' h =>
      rw [c_closeTo, hrest] at h
      obtain ⟨rfl, rfl⟩ := List.cons.inj h
      rw [hnext]
      dsimp only
      rw [if_pos hlt]

/-- At the end of a text all blocks end. -/
theorem run?_end {here : Scan} (hhere : s.skipGap.dropStale? = some here)
    (hrest : here.c.rest = []) :
    run? s = ((here.closeTo here.c.column).closeTo (-1)).dropKey?.map Scan.tokens := by
  rw [run?]
  split
  · next h =>
    rw [hhere] at h
    cases h
  · next here' h =>
    rw [hhere] at h
    obtain rfl := Option.some.inj h
    dsimp only
    split
    · cases ((here.closeTo here.c.column).closeTo (-1)).dropKey? <;> rfl
    · next h =>
      rw [c_closeTo, hrest] at h
      cases h

/-- A run that is not refused is at the end of the text, or goes on behind a token. -/
theorem run?_eq_some {ts : Array Token} (h : run? s = some ts) :
    ∃ here, s.skipGap.dropStale? = some here ∧
      ((here.c.rest = [] ∧
          ((here.closeTo here.c.column).closeTo (-1)).dropKey?.map Scan.tokens = some ts) ∨
        ∃ ch rest after, here.c.rest = ch :: rest ∧
          next? (here.closeTo here.c.column) ch = some after ∧
          after.c.rest.length < s.c.rest.length ∧ run? after = some ts) := by
  -- the equation of `run?` is opened once, here; callers get the two ways it can succeed
  cases hhere : s.skipGap.dropStale? with
  | none =>
      rw [run?] at h
      split at h
      · cases h
      · next heq =>
        rw [hhere] at heq
        cases heq
  | some here =>
      refine ⟨here, rfl, ?_⟩
      cases hrest : here.c.rest with
      | nil => exact Or.inl ⟨rfl, run?_end hhere hrest ▸ h⟩
      | cons ch rest =>
          rw [run?] at h
          split at h
          · cases h
          · next heq =>
            obtain rfl := Option.some.inj (hhere.symm.trans heq)
            simp only [c_closeTo, hrest] at h
            split at h
            · cases h
            · next after hnext =>
              split at h
              · next hlt => exact Or.inr ⟨ch, rest, after, rfl, hnext, hlt, h⟩
              · cases h

/-! ### Which token

At a character that begins a token nothing else is asked of the cursor than that no mark of
a document stands there, which takes three equal characters at the start of a line. -/

theorem atDocumentMark_of_ne {c : Cursor} {ch mark : Char} {rest : List Char}
    (hrest : c.rest = ch :: rest) (hne : ch ≠ mark) : c.atDocumentMark mark = false := by
  have hprefix : ¬ [mark, mark, mark].isPrefixOf (ch :: rest) = true := by
    rw [List.isPrefixOf_iff_prefix, List.cons_prefix_cons]
    exact fun h => hne h.1.symm
  simp [Cursor.atDocumentMark, hrest, hprefix]

variable {rest : List Char}

theorem next?_quote (hrest : s.c.rest = '"' :: rest) : next? s '"' = quoted? s false := by
  simp [next?, atDocumentMark_of_ne hrest]

theorem next?_singleQuote (hrest : s.c.rest = '\'' :: rest) : next? s '\'' = quoted? s true := by
  simp [next?, atDocumentMark_of_ne hrest]

theorem next?_colon (hrest : s.c.rest = ':' :: rest) (h : s.inFlow = true ∨ s.c.blankAt 1 = true) :
    next? s ':' = value? s := by
  simp [next?, atDocumentMark_of_ne hrest, h]

theorem next?_brace (hrest : s.c.rest = '{' :: rest) :
    next? s '{' = openFlow? s .flowMappingStart := by
  simp [next?, atDocumentMark_of_ne hrest]

theorem next?_tab (hrest : s.c.rest = '\t' :: rest) : next? s '\t' = none := by
  simp [next?, atDocumentMark_of_ne hrest, startsPlain, Cursor.peek?, hrest, isBlank]

/-! ### What a token leaves as it is

A token changes the stack of tokens and keys. What the members of an object need is only
where the cursor stands behind it, and that the scan is still in brackets. -/

variable {after : Scan}

theorem next?_comma_eq_some (hrest : s.c.rest = ',' :: rest) (h : next? s ',' = some after) :
    after.c = s.c.skip ∧ after.inFlow = s.inFlow := by
  have hnext : next? s ',' = s.dropKey?.map fun s' =>
      { s' with keyAllowed := true }.emit .flowEntry s.c.skip := by
    simp [next?, atDocumentMark_of_ne hrest]
    cases s.dropKey? <;> rfl
  rw [hnext] at h
  obtain ⟨s', hs', rfl⟩ := Option.map_eq_some_iff.mp h
  rw [dropKey?_eq_some hs']
  exact ⟨rfl, rfl⟩

theorem quoted?_eq_some {single : Bool} (h : quoted? s single = some after) :
    ∃ text c, readQuoted single s.c = some (text, c) ∧ after.c = c ∧ after.inFlow = s.inFlow := by
  obtain ⟨s', hs', h⟩ := Option.bind_eq_some_iff.mp h
  obtain ⟨key, rfl⟩ := saveKey?_eq_some hs'
  obtain ⟨⟨t, c⟩, hread, h⟩ := Option.bind_eq_some_iff.mp h
  obtain ⟨⟨text, c'⟩, hread, heq⟩ := Option.map_eq_some_iff.mp hread
  cases heq
  obtain rfl := Option.some.inj h
  exact ⟨text, c, hread, rfl, rfl⟩

theorem openBlock_of_inFlow (h : s.inFlow = true) (column : Nat) (start : Token) :
    s.openBlock column start = s := by
  simp [openBlock, h]

theorem value?_eq_some (hflow : s.inFlow = true) (h : value? s = some after) :
    after.c = s.c.skip ∧ after.inFlow = s.inFlow := by
  unfold value? at h
  split at h
  -- a key was saved, and inside brackets it opens no block
  · rw [hflow] at h
    obtain rfl := Option.some.inj h
    exact ⟨rfl, rfl⟩
  · obtain ⟨-, -, h⟩ := Option.bind_eq_some_iff.mp h
    rw [openBlock_of_inFlow hflow] at h
    obtain ⟨s', hs', h⟩ := Option.bind_eq_some_iff.mp h
    obtain rfl := Option.some.inj h
    rw [dropKey?_eq_some hs']
    exact ⟨rfl, rfl⟩

theorem openFlow?_eq_some {start : Token} (h : openFlow? s start = some after) :
    after.c = s.c.skip ∧ after.inFlow = true := by
  obtain ⟨s', hs', h⟩ := Option.bind_eq_some_iff.mp h
  obtain ⟨key, rfl⟩ := saveKey?_eq_some hs'
  obtain rfl := Option.some.inj h
  exact ⟨rfl, rfl⟩

end Scan
end MailMerge.Yaml
