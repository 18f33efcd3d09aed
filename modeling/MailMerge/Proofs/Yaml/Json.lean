import MailMerge.Proofs.Json.Object
import MailMerge.Proofs.Yaml.Quoted
import MailMerge.Proofs.Yaml.Scan
import MailMerge.Yaml.Mapping

/-!
# JSON that is no YAML mapping

In the members of an object the scanner goes from token to token of the JSON text, or refuses it. So
it comes to every text in quotes, and refuses one with half of a surrogate pair (`run?_of_stuck`). A
number alone is a text and no mapping.
-/

namespace MailMerge.Yaml

/-! ### Texts in double quotes

JSON and the scanner read a text in quotes by different rules: the scanner folds blanks and
line breaks together, and knows more escapes. But character by character it takes what JSON
takes, and stops at the same quote; only half of a surrogate pair, a text to neither, is no
character at all. -/

variable {bound : List Unit} {read cs rest : List Char} {gap : Gap} {c : Cursor} {ch : Char}
  {r : List Char × Cursor}

theorem hexNumber_of_hex4? {x y z w : Char} {n : Nat} (h : Json.hex4? x y z w = some n) :
    Unicode.hexNumber [x, y, z, w] = n ∧
      ∀ d ∈ [x, y, z, w], (Unicode.hexDigit? d).isSome = true := by
  unfold Json.hex4? at h
  obtain ⟨a, ha, h⟩ := Option.bind_eq_some_iff.mp h
  obtain ⟨b, hb, h⟩ := Option.bind_eq_some_iff.mp h
  obtain ⟨c, hc, h⟩ := Option.bind_eq_some_iff.mp h
  obtain ⟨d, hd, h⟩ := Option.bind_eq_some_iff.mp h
  obtain rfl := Option.some.inj h
  refine ⟨?_, ?_⟩
  · simp [Unicode.hexNumber, ha, hb, hc, hd]
  · simp [ha, hb, hc, hd]

theorem isSurrogate_of_isValidChar {n : Nat} (h : n.isValidChar) : Json.isSurrogate n = false := by
  rw [← Bool.not_eq_true]
  intro hsurrogate
  simp only [Json.isSurrogate, Json.isLeading, Json.isTrailing, Bool.or_eq_true, Bool.and_eq_true,
    decide_eq_true_eq] at hsurrogate
  simp only [Nat.isValidChar] at h
  omega

theorem atAnyMark_eq_false (h : readQuotedFrom false bound read gap c = some r) :
    c.atAnyMark = false := by
  cases bound with
  | nil => cases h
  | cons u bound =>
      cases hmark : c.atAnyMark with
      | false => rfl
      | true =>
          rw [readQuotedFrom, if_pos hmark] at h
          cases h

/-- A character that stands for itself in JSON is passed. -/
theorem readQuotedFrom_json_raw (hch : ' ' ≤ ch) (hquote : ch ≠ '"') (hslash : ch ≠ '\\')
    (hrest : c.rest = ch :: cs) (h : readQuotedFrom false bound read gap c = some r) :
    ∃ bound' read' gap' c', c'.rest = cs ∧
      readQuotedFrom false bound' read' gap' c' = some r := by
  have hmark := atAnyMark_eq_false h
  -- the scanner may have no steps left, see a blank, a line break
  -- or a letter: each passes one character
  cases bound with
  | nil => cases h
  | cons u bound =>
      cases hblank : isBlank ch with
      | true =>
          rw [readQuotedFrom_blank hmark hrest hblank] at h
          exact ⟨bound, read, _, c.skip, by simp [Cursor.skip, hrest], h⟩
      | false =>
          cases hbreak : isBreak ch with
          | true =>
              rw [readQuotedFrom_break hmark hrest hblank hbreak] at h
              refine ⟨bound, read, _, c.skipLine, ?_, h⟩
              have hreturn : '\r' ≠ ch := by
                rintro rfl
                exact absurd hch (by decide)
              simp [Cursor.skipLine, hrest, hreturn]
          | false =>
              have hraw := @readQuotedFrom_raw false bound read cs gap c ch hmark hrest hblank
                hbreak hquote fun _ => hslash
              rw [hraw] at h
              exact ⟨bound, _, _, c.skip, by simp [Cursor.skip, hrest], h⟩

/-- A short escape of JSON is passed. -/
theorem readQuotedFrom_json_short (hl : (Json.escaped? ch).isSome = true)
    (hrest : c.rest = '\\' :: ch :: cs) (h : readQuotedFrom false bound read gap c = some r) :
    ∃ bound' read' gap' c', c'.rest = cs ∧
      readQuotedFrom false bound' read' gap' c' = some r := by
  have hmark := atAnyMark_eq_false h
  -- every letter after a backslash that JSON knows, the scanner knows
  have hletter : isBreak ch = false ∧ ∃ d, escapeChar? ch = some d := by
    unfold Json.escaped? at hl
    split at hl
    all_goals first | exact ⟨rfl, _, rfl⟩ | cases hl
  obtain ⟨hbreak, d, hd⟩ := hletter
  cases bound with
  | nil => cases h
  | cons u bound =>
      rw [readQuotedFrom_escape hmark hrest hbreak, readEscape?_of_letter hrest hd] at h
      exact ⟨bound, _, _, c.skipMany 2, by simp [hrest], h⟩

/-- An escape by four digits is passed, or refused for half of a surrogate pair. -/
theorem readQuotedFrom_json_code {x y z w : Char} {n : Nat} (hn : Json.hex4? x y z w = some n)
    (hrest : c.rest = '\\' :: 'u' :: x :: y :: z :: w :: cs)
    (h : readQuotedFrom false bound read gap c = some r) :
    Json.isSurrogate n = false ∧ ∃ bound' read' gap' c', c'.rest = cs ∧
      readQuotedFrom false bound' read' gap' c' = some r := by
  have hmark := atAnyMark_eq_false h
  obtain ⟨hnumber, hdigits⟩ := hexNumber_of_hex4? hn
  cases bound with
  | nil => cases h
  | cons u bound =>
      have hcode := @readEscape?_of_code cs c 'u' [x, y, z, w] hrest rfl hdigits
      rw [readQuotedFrom_escape hmark hrest (by decide), hcode, hnumber] at h
      split at h
      -- the scanner makes a character of the number at once, so a surrogate is refused here
      · cases h
      · next p hp =>
        split at hp
        · next hvalid =>
          cases hp
          exact ⟨isSurrogate_of_isValidChar hvalid, bound, _, _, c.skipMany 6, by simp [hrest], h⟩
        · cases hp

/-- A text of JSON is read to its closing quote, or refused. -/
theorem rest_readQuotedFrom_of_body (hbody : Json.Body cs rest) (hrest : c.rest = cs)
    (h : readQuotedFrom false bound read gap c = some r) : r.2.rest = rest := by
  -- the two readers need not agree on what they have read, only on where they are
  induction hbody generalizing bound read gap c with
  | close =>
      cases bound with
      | nil => cases h
      | cons u bound =>
          have hclose := @readQuotedFrom_close false bound read _ gap c (atAnyMark_eq_false h) hrest
            nofun
          rw [hclose] at h
          obtain rfl := Option.some.inj h
          simp [Cursor.skip, hrest]
  | raw hch hquote hslash _ ih =>
      obtain ⟨_, _, _, _, hrest', h'⟩ := readQuotedFrom_json_raw hch hquote hslash hrest h
      exact ih hrest' h'
  | short hl _ ih =>
      obtain ⟨_, _, _, _, hrest', h'⟩ := readQuotedFrom_json_short hl hrest h
      exact ih hrest' h'
  | code hcode _ ih =>
      obtain ⟨n, hn⟩ := Option.isSome_iff_exists.mp hcode
      obtain ⟨-, _, _, _, _, hrest', h'⟩ := readQuotedFrom_json_code hn hrest h
      exact ih hrest' h'

/-- A text with half of a surrogate pair is refused. -/
theorem readQuotedFrom_of_halved (hhalved : Json.Halved cs) (hrest : c.rest = cs) :
    readQuotedFrom false bound read gap c ≠ some r := by
  intro h
  induction hhalved generalizing bound read gap c with
  | here hn hsurrogate =>
      rw [(readQuotedFrom_json_code hn hrest h).1] at hsurrogate
      cases hsurrogate
  | raw hch hquote hslash _ ih =>
      obtain ⟨_, _, _, _, hrest', h'⟩ := readQuotedFrom_json_raw hch hquote hslash hrest h
      exact ih hrest' h'
  | short hl _ ih =>
      obtain ⟨_, _, _, _, hrest', h'⟩ := readQuotedFrom_json_short hl hrest h
      exact ih hrest' h'
  | code hcode _ ih =>
      obtain ⟨n, hn⟩ := Option.isSome_iff_exists.mp hcode
      obtain ⟨-, _, _, _, _, hrest', h'⟩ := readQuotedFrom_json_code hn hrest h
      exact ih hrest' h'

/-! ### Members of an object

Inside brackets a line break is a blank and a comma, a colon or a quote is a token wherever
it stands. A scan of members therefore stays in step with the JSON text, up to the text that
stops it. -/

namespace Scan

variable {s : Scan}

theorem isPassed_true : isPassed true = Json.isSpace := by
  funext ch
  simp only [isPassed, Json.isSpace, Bool.true_and]
  rw [Bool.or_assoc, Bool.or_assoc, Bool.or_assoc, Bool.or_assoc, Bool.or_comm (decide (ch = '\r'))]

/-- Behind the space that a stuck text begins with stands a token of it. -/
theorem stuck_dropWhile {cs : List Char} (h : Json.Stuck cs) :
    Json.Stuck (cs.dropWhile Json.isSpace) ∧
      ∃ ch ∈ ['"', ':', ','], (cs.dropWhile Json.isSpace).head? = some ch := by
  induction h with
  | here hhalved => exact ⟨.here hhalved, '"', by simp, rfl⟩
  | text hbody hstuck => exact ⟨.text hbody hstuck, '"', by simp, rfl⟩
  | space hc _ ih =>
      rw [List.dropWhile_cons, if_pos hc]
      exact ih
  | @mark c cs hc hstuck _ =>
      -- a mark is no space, so nothing is dropped before it
      have hspace : Json.isSpace c = false := by rcases hc with rfl | rfl <;> rfl
      rw [List.dropWhile_cons, hspace]
      exact ⟨.mark hc hstuck, c, by rcases hc with rfl | rfl <;> simp, rfl⟩

theorem head?_ne_of_stuck {cs : List Char} (h : Json.Stuck cs) : cs.head? ≠ some '\uFEFF' := by
  cases h with
  | here => simp
  | text => simp
  | space hc =>
      rintro heq
      obtain rfl := Option.some.inj heq
      cases hc
  | mark hc =>
      rintro heq
      obtain rfl := Option.some.inj heq
      rcases hc with hc | hc <;> cases hc

/-- In brackets the scanner comes to the token behind the space. -/
theorem here_of_inFlow {here : Scan} (hflow : s.inFlow = true) (hstuck : Json.Stuck s.c.rest)
    (hhere : s.skipGap.dropStale? = some here) :
    here.inFlow = true ∧ here.c.rest = s.c.rest.dropWhile Json.isSpace := by
  obtain ⟨-, ch, hch, hhead⟩ := stuck_dropWhile hstuck
  have hstop : ∀ ch ∈ (s.c.rest.dropWhile (isPassed s.inFlow)).head?,
      isBreak ch = false ∧ ch ≠ '#' := by
    intro ch' hch'
    rw [hflow, isPassed_true, hhead] at hch'
    obtain rfl := Option.some.inj hch'
    simp only [List.mem_cons, List.not_mem_nil, or_false] at hch
    rcases hch with rfl | rfl | rfl <;> decide
  obtain ⟨c, hskip, hrest⟩ := skipGap_eq (Or.inl hflow) (head?_ne_of_stuck hstuck) hstop
  obtain ⟨key, outerKeys, rfl, hinFlow⟩ := dropStale?_eq_some hhere
  rw [hskip] at hinFlow ⊢
  rw [hflow, isPassed_true] at hrest
  exact ⟨hinFlow.trans hflow, hrest⟩

/-- Members that come to a text with half of a surrogate pair are refused. -/
theorem run?_of_stuck {ts : Array Token} (hflow : s.inFlow = true) (hstuck : Json.Stuck s.c.rest) :
    run? s ≠ some ts := by
  -- every token takes at least one character, so the induction is on what is left
  induction hn : s.c.rest.length using Nat.strongRecOn generalizing s with
  | _ n ih =>
      intro h
      obtain ⟨here, hhere, hrun⟩ := run?_eq_some h
      obtain ⟨hhereFlow, hrest⟩ := here_of_inFlow hflow hstuck hhere
      obtain ⟨hbehind, ch, hch, hhead⟩ := stuck_dropWhile hstuck
      rw [← hrest] at hbehind hhead
      -- something stands there, so the run is not at its end
      rcases hrun with ⟨hend, -⟩ | ⟨ch', rest, after, hcons, hnext, hlt, hafter⟩
      · rw [hend] at hhead
        cases hhead
      rw [hcons, List.head?_cons, Option.some.injEq] at hhead
      subst hhead
      rw [closeTo_of_inFlow hhereFlow] at hnext
      -- what is passed leaves members that come to the same text
      have hgo : ∀ cs, after.c.rest = cs → after.inFlow = true → ¬ Json.Stuck cs := by
        rintro cs rfl hafterFlow hafterStuck
        exact ih _ (hn ▸ hlt) hafterFlow hafterStuck rfl hafter
      rw [hcons] at hbehind
      cases hbehind with
      | here hhalved =>
          rw [next?_quote hcons] at hnext
          obtain ⟨text, c, hread, -⟩ := quoted?_eq_some hnext
          exact readQuotedFrom_of_halved hhalved (by simp [Cursor.skip, hcons]) hread
      | text hbody hafterStuck =>
          rw [next?_quote hcons] at hnext
          obtain ⟨text, c, hread, rfl, hinFlow⟩ := quoted?_eq_some hnext
          exact hgo _ (rest_readQuotedFrom_of_body hbody (by simp [Cursor.skip, hcons]) hread)
            (hinFlow.trans hhereFlow) hafterStuck
      | space hspace =>
          simp only [List.mem_cons, List.not_mem_nil, or_false] at hch
          -- behind the space there is no more space
          rcases hch with rfl | rfl | rfl <;> cases hspace
      | mark hmark hafterStuck =>
          rcases hmark with rfl | rfl
          · rw [next?_colon hcons (Or.inl hhereFlow)] at hnext
            obtain ⟨hc, hinFlow⟩ := value?_eq_some hhereFlow hnext
            exact hgo _ (by simp [hc, Cursor.skip, hcons]) (hinFlow.trans hhereFlow) hafterStuck
          · obtain ⟨hc, hinFlow⟩ := next?_comma_eq_some hcons hnext
            exact hgo _ (by simp [hc, Cursor.skip, hcons]) (hinFlow.trans hhereFlow) hafterStuck

end Scan

/-! ### Numbers

A number of JSON has neither a blank nor a mark of YAML inside. The scanner takes it whole,
as one plain text, and a document of one text is no mapping. -/

/-- Whether a character may stand in a number of JSON. -/
def isNumberChar (ch : Char) : Bool := ch.isDigit || ['-', '+', '.', 'e', 'E'].contains ch

/-- Some characters that meet a condition, and what is left behind them. -/
def Taken (p : Char → Bool) (cs rest : List Char) : Prop :=
  ∃ front, (∀ ch ∈ front, p ch = true) ∧ cs = front ++ rest

namespace Taken

variable {p q : Char → Bool}

theorem none : Taken p rest rest := ⟨[], nofun, rfl⟩

theorem cons (hch : p ch = true) (h : Taken p cs rest) : Taken p (ch :: cs) rest := by
  obtain ⟨front, hfront, rfl⟩ := h
  exact ⟨ch :: front, List.forall_mem_cons.mpr ⟨hch, hfront⟩, rfl⟩

theorem trans {more : List Char} (h : Taken p cs rest) (h' : Taken p rest more) :
    Taken p cs more := by
  obtain ⟨front, hfront, rfl⟩ := h
  obtain ⟨back, hback, rfl⟩ := h'
  exact ⟨front ++ back, List.forall_mem_append.mpr ⟨hfront, hback⟩,
    (List.append_assoc front back more).symm⟩

theorem of_gap (h : Json.Gap cs rest) : Taken Json.isSpace cs rest := by
  induction h with
  | none => exact none
  | space hc _ ih => exact ih.cons hc

theorem of_digits (h : Json.Digits cs rest) : Taken isNumberChar cs rest := by
  obtain ⟨ds, -, hds, rfl, -⟩ := h
  exact ⟨ds, fun d hd => by simp [isNumberChar, hds d hd], rfl⟩

theorem of_exponent (h : Json.Exponent cs rest) : Taken isNumberChar cs rest := by
  cases h with
  | none => exact none
  | digits he hsign hds =>
      refine cons (by rcases he with rfl | rfl <;> rfl) ?_
      cases hsign with
      | none => exact of_digits hds
      | plus => exact (of_digits hds).cons rfl
      | minus => exact (of_digits hds).cons rfl

theorem of_magnitude (h : Json.Magnitude cs rest) :
    ∃ d ds, cs = d :: ds ∧ d.isDigit = true ∧ Taken isNumberChar ds rest := by
  obtain ⟨a, b, hwhole, hfraction, hexponent⟩ := h
  have hbehind : Taken isNumberChar a rest := by
    cases hfraction with
    | none => exact of_exponent hexponent
    | digits hds => exact ((of_digits hds).cons rfl).trans (of_exponent hexponent)
  cases hwhole with
  | zero => exact ⟨'0', a, rfl, rfl, hbehind⟩
  | digits _ hds =>
      obtain ⟨run, hne, hrun, happ, -⟩ := hds
      obtain ⟨d', run, rfl⟩ := List.exists_cons_of_ne_nil hne
      obtain ⟨rfl, rfl⟩ := List.cons.inj happ
      obtain ⟨hd, hrun⟩ := List.forall_mem_cons.mp hrun
      have hfirst : Taken isNumberChar (run ++ a) a :=
        ⟨run, fun d hd => by simp [isNumberChar, hrun d hd], rfl⟩
      exact ⟨_, _, rfl, hd, hfirst.trans hbehind⟩

end Taken

theorem isNumberChar_cases (h : isNumberChar ch = true) :
    isBlank ch = false ∧ isBreak ch = false ∧ ch ≠ ':' := by
  simp only [isNumberChar, Bool.or_eq_true, List.contains_iff_mem, List.mem_cons,
    List.not_mem_nil, or_false] at h
  rcases h with hd | rfl | rfl | rfl | rfl | rfl
  · simp (disch := decide) [isBlank, isBreak, Json.ne_of_isDigit hd]
  all_goals decide

theorem isBreak_of_isSpace (h : Json.isSpace ch = true) (hblank : isBlank ch = false) :
    isBreak ch = true := by
  simp only [Json.isSpace, Bool.or_eq_true, decide_eq_true_eq] at h
  rcases h with ((rfl | rfl) | rfl) | rfl
  · cases hblank
  · rfl
  · cases hblank
  · rfl

/-- Space behind a plain text is no part of it. -/
theorem readPlainFrom_space {indent : Int} {r : List Char × Bool × Cursor}
    (hspace : ∀ ch ∈ c.rest, Json.isSpace ch = true)
    (h : readPlainFrom false indent bound read gap c = some r) :
    r.1 = read.reverse ∧ r.2.2.rest = [] := by
  induction bound generalizing gap c with
  | nil => cases h
  | cons u bound ih =>
      have hskip : ∀ ch ∈ c.skip.rest, Json.isSpace ch = true :=
        fun ch hch => hspace ch (List.mem_of_mem_drop hch)
      have hline : ∀ ch ∈ c.skipLine.rest, Json.isSpace ch = true :=
        fun ch hch => hspace ch (List.mem_of_mem_drop hch)
      -- outside of brackets a line break may not end a plain text,
      -- but here only space is left anyway
      rw [readPlainFrom] at h
      split at h
      · next hpeek =>
        cases h
        exact ⟨rfl, List.head?_eq_none_iff.mp hpeek⟩
      · next ch hpeek =>
        have hch := hspace ch (List.mem_of_head? hpeek)
        split at h
        · split at h
          · cases h
          · exact ih hskip h
        · next hblank =>
          rw [if_pos (isBreak_of_isSpace hch (by simpa using hblank))] at h
          exact ih hline h

/-- A number is read as a plain text, whole. -/
theorem readPlainFrom_number {indent : Int} {w : List Char} {r : List Char × Bool × Cursor}
    (hw : ∀ ch ∈ w, isNumberChar ch = true) (hrest : c.rest = w ++ rest)
    (hspace : ∀ ch ∈ rest, Json.isSpace ch = true)
    (h : readPlainFrom false indent bound read .none c = some r) :
    r.1 = read.reverse ++ w ∧ r.2.2.rest = [] := by
  induction w generalizing bound read c with
  | nil =>
      rw [List.append_nil]
      exact readPlainFrom_space (by rwa [hrest]) h
  | cons ch w ih =>
      cases bound with
      | nil => cases h
      | cons u bound =>
          obtain ⟨hch, hw⟩ := List.forall_mem_cons.mp hw
          obtain ⟨hblank, hbreak, hcolon⟩ := isNumberChar_cases hch
          -- no blank, no break and no colon: none of what ends a plain text
          have hnext : readPlainFrom false indent bound (ch :: read) .none c.skip = some r := by
            simpa [readPlainFrom, Cursor.peek?, hrest, hblank, hbreak, plainEnd?, Cursor.looksAt,
              hcolon, Gap.none, Gap.text] using h
          obtain ⟨htext, hend⟩ := ih hw (by simp [Cursor.skip, hrest]) hnext
          exact ⟨by simpa using htext, hend⟩

namespace Scan

variable {s after : Scan}

theorem next?_digit {d : Char} (hd : d.isDigit = true) (hrest : s.c.rest = d :: rest) :
    next? s d = plain? s := by
  have hstart : startsPlain s.inFlow s.c = true := by
    simp (disch := decide) [startsPlain, Cursor.peek?, hrest, isBlank, isBreak,
      Json.ne_of_isDigit hd]
  have hmark : ∀ mark : Char, mark.isDigit = false → s.c.atDocumentMark mark = false :=
    fun mark hmark => atDocumentMark_of_ne hrest (Json.ne_of_isDigit hd hmark)
  simp (disch := decide) [next?, hmark, Json.ne_of_isDigit hd, hstart]

theorem next?_minus {d : Char} (hd : d.isDigit = true) (hrest : s.c.rest = '-' :: d :: rest) :
    next? s '-' = plain? s := by
  have hblank : isBlank d = false ∧ isBreak d = false := by
    simp (disch := decide) [isBlank, isBreak, Json.ne_of_isDigit hd]
  have hstart : startsPlain s.inFlow s.c = true := by
    simp [startsPlain, Cursor.peek?, Cursor.at?, hrest, hblank]
  have hmark : s.c.atDocumentMark '-' = false := by
    have hminus : ('-' == d) = false := by
      simp (disch := decide) [Ne.symm (Json.ne_of_isDigit hd _)]
    simp [Cursor.atDocumentMark, hrest, List.isPrefixOf, hminus]
  have hbehind : s.c.blankAt 1 = false := by
    simp [Cursor.blankAt, Cursor.at?, hrest, hblank]
  simp [next?, hmark, atDocumentMark_of_ne hrest, hbehind, hstart]

/-- A number alone is one plain text. -/
theorem plain?_of_number {w : List Char} (hflow : s.inFlow = false)
    (hw : ∀ ch ∈ w, isNumberChar ch = true) (hrest : s.c.rest = w ++ rest)
    (hspace : ∀ ch ∈ rest, Json.isSpace ch = true) (h : plain? s = some after) :
    after.tokens = s.tokens.push (.scalar w) ∧ after.c.rest = [] ∧ after.outer = s.outer := by
  -- to save the place of a possible key touches nothing that is read
  obtain ⟨s', hs', h⟩ := Option.bind_eq_some_iff.mp h
  obtain ⟨key, rfl⟩ := saveKey?_eq_some hs'
  obtain ⟨⟨text, broken, c⟩, hread, h⟩ := Option.bind_eq_some_iff.mp h
  obtain rfl := Option.some.inj h
  have hflow' : inFlow { s with key } = false := hflow
  rw [hflow'] at hread
  obtain ⟨htext, hend⟩ := readPlainFrom_number hw hrest hspace hread
  obtain rfl : text = w := by simpa using htext
  exact ⟨rfl, hend, rfl⟩

/-- Where the text ends and no block is open, no token is added. -/
theorem tokens_of_run? {ts : Array Token} (hrest : s.c.rest = []) (houter : s.outer = [])
    (h : run? s = some ts) : ts = s.tokens := by
  obtain ⟨here, hhere, hrun⟩ := run?_eq_some h
  obtain ⟨key, outerKeys, heq, -⟩ := dropStale?_eq_some hhere
  rw [skipGap_of_stop (by simp [hrest])] at heq
  have hhereRest : here.c.rest = [] := by rw [heq]; exact hrest
  have hhereOuter : here.outer = [] := by rw [heq]; exact houter
  -- there is no block to close and no further token: the run ends with what it has
  rcases hrun with ⟨-, hend⟩ | ⟨ch, cs, after, hcons, -⟩
  · rw [closeTo_of_outer_eq_nil hhereOuter, closeTo_of_outer_eq_nil hhereOuter] at hend
    obtain ⟨s', hs', rfl⟩ := Option.map_eq_some_iff.mp hend
    rw [dropKey?_eq_some hs', heq]
  · rw [hhereRest] at hcons
    cases hcons

theorem isSpace_eq_false (h : beginsGap ch = false) : Json.isSpace ch = false := by
  obtain ⟨hblank, htab, hbreak, -⟩ := not_beginsGap h
  simp only [isBreak, Bool.or_eq_false_iff, decide_eq_false_iff_not] at hbreak
  simp [Json.isSpace, hblank, htab, hbreak]

/-- At the start of a text the space is passed, but no tab. -/
theorem dropWhile_of_gap (h : Json.Gap cs rest)
    (hrest : ∀ ch ∈ rest.head?, Json.isSpace ch = false) :
    cs.dropWhile (isPassed false) = rest ∨ (cs.dropWhile (isPassed false)).head? = some '\t' := by
  induction h with
  | none =>
      refine Or.inl (dropWhile_of_head? fun ch hch => ?_)
      have hspace := hrest ch hch
      simp only [Json.isSpace, Bool.or_eq_false_iff, decide_eq_false_iff_not] at hspace
      simp [isPassed, hspace]
  | @space ch cs rest hch _ ih =>
      cases hpassed : isPassed false ch with
      | true =>
          rw [List.dropWhile_cons, if_pos hpassed]
          exact ih hrest
      -- all space but the tab is passed, and the scan stops at the tab
      | false =>
          have htab : ch = '\t' := by
            simp only [Json.isSpace, Bool.or_eq_true, decide_eq_true_eq] at hch
            rcases hch with ((rfl | rfl) | rfl) | rfl
            · cases hpassed
            · cases hpassed
            · rfl
            · cases hpassed
          rw [List.dropWhile_cons, hpassed]
          exact Or.inr (congrArg some htab)

/-- Before anything is read. -/
structure IsFresh (s : Scan) : Prop where
  tokens : s.tokens = #[]
  outer : s.outer = []
  inFlow : s.inFlow = false

/-- What is read of a text first is the token behind the space. -/
theorem next?_of_run? {text : List Char} {ts : Array Token} (hgap : Json.Gap text (ch :: rest))
    (hbegin : beginsGap ch = false) (h : run? (initial text) = some ts) :
    ∃ s after, IsFresh s ∧ s.c.rest = ch :: rest ∧ next? s ch = some after ∧
      run? after = some ts := by
  obtain ⟨-, -, hbreak, hcomment, hmark⟩ := not_beginsGap hbegin
  have hspace : ∀ c ∈ (ch :: rest).head?, Json.isSpace c = false := by
    simpa using isSpace_eq_false hbegin
  -- what begins a token is no space
  have hpassed := dropWhile_of_gap hgap hspace
  have hfirst : text.head? ≠ some '\uFEFF' := by
    cases hgap with
    | none => simpa using hmark
    | space hc =>
        rintro heq
        obtain rfl := Option.some.inj heq
        cases hc
  have hstop : ∀ ch' ∈ (text.dropWhile (isPassed false)).head?,
      isBreak ch' = false ∧ ch' ≠ '#' := by
    rintro ch' hch'
    rcases hpassed with heq | heq
    · rw [heq] at hch'
      obtain rfl := Option.some.inj hch'
      exact ⟨hbreak, hcomment⟩
    · rw [heq] at hch'
      obtain rfl := Option.some.inj hch'
      decide
  obtain ⟨c, hskip, hc⟩ := @skipGap_eq (initial text) (Or.inr rfl) hfirst hstop
  obtain ⟨here, hhere, hrun⟩ := run?_eq_some h
  rw [hskip] at hhere
  obtain rfl : { initial text with c } = here := Option.some.inj hhere
  have hrest : c.rest = text.dropWhile (isPassed false) := hc
  -- the text does not end at the gap: behind it stands the token or a tab
  rcases hrun with ⟨hend, -⟩ | ⟨ch', rest', after, hcons, hnext, -, hrun⟩
  · rw [show c.rest = [] from hend] at hrest
    rw [← hrest] at hpassed
    rcases hpassed with heq | heq <;> cases heq
  · rw [closeTo_of_outer_eq_nil rfl] at hnext
    rw [show c.rest = _ from hcons] at hrest
    rw [← hrest] at hpassed
    rcases hpassed with heq | heq
    · obtain ⟨rfl, rfl⟩ := List.cons.inj heq
      exact ⟨_, after, ⟨rfl, rfl, rfl⟩, hcons, hnext, hrun⟩
    · -- a tab is passed only where no key may start, and it begins no token
      obtain rfl := Option.some.inj heq
      rw [next?_tab hcons] at hnext
      cases hnext

/-- Of a number alone the scanner makes one text. -/
theorem tokens_of_number {w : List Char} {ts : Array Token} {s after : Scan} (hs : IsFresh s)
    (hw : ∀ ch ∈ w, isNumberChar ch = true) (hrest : s.c.rest = w ++ rest)
    (hspace : Json.Gap rest []) (hplain : plain? s = some after) (h : run? after = some ts) :
    ts = #[.scalar w] := by
  obtain ⟨space, hspace, hcons⟩ := Taken.of_gap hspace
  rw [List.append_nil] at hcons
  subst hcons
  obtain ⟨htokens, hend, houter⟩ := plain?_of_number hs.inFlow hw hrest hspace hplain
  rw [tokens_of_run? hend (houter.trans hs.outer) h, htokens, hs.tokens]
  rfl

end Scan

/-- A text alone is no mapping. -/
theorem document?_scalar (w : List Char) : document? [.scalar w] = none := by
  simp [document?, directives?, root?, takeProperties?, takeAnchor, takeTag?]

theorem parse?_eq_some {text : String} {rules : Record} (h : parse? text = some rules) :
    ∃ ts entries, Scan.run? (.initial text.toList) = some ts ∧
      document? ts.toList = some entries := by
  obtain ⟨tokens, htokens, h⟩ := Option.bind_eq_some_iff.mp h
  obtain ⟨entries, hentries, -⟩ := Option.bind_eq_some_iff.mp h
  unfold tokens? at htokens
  split at htokens
  · obtain ⟨ts, hrun, rfl⟩ := Option.map_eq_some_iff.mp htokens
    exact ⟨ts, entries, hrun, hentries⟩
  · cases htokens

/-- A number alone is no mapping, `w` being what follows its first character. -/
theorem parse?_of_number {text : String} {rules : Record} {w : List Char}
    (hgap : Json.Gap text.toList (ch :: (w ++ rest))) (hbegin : Scan.beginsGap ch = false)
    (hplain : ∀ s : Scan, s.c.rest = ch :: (w ++ rest) → s.next? ch = s.plain?)
    (hw : ∀ c ∈ ch :: w, isNumberChar c = true) (hspace : Json.Gap rest []) :
    parse? text ≠ some rules := by
  intro h
  obtain ⟨ts, entries, hrun, hentries⟩ := parse?_eq_some h
  obtain ⟨s, after, hs, hrest, hnext, hafter⟩ := Scan.next?_of_run? hgap hbegin hrun
  rw [hplain s hrest] at hnext
  rw [Scan.tokens_of_number hs hw hrest hspace hnext hafter, document?_scalar] at hentries
  cases hentries

/-- What JSON refuses in a document without telling the kind of a value is no YAML mapping. -/
theorem parse?_of_refused {text : String} (h : Json.Refused text.toList) : parse? text = none := by
  rw [Option.eq_none_iff_forall_ne_some]
  intro rules hrules
  obtain ⟨ts, entries, hrun, -⟩ := parse?_eq_some hrules
  -- by what the document begins with
  cases h with
  | text hgap hhalved =>
      obtain ⟨s, after, -, hrest, hnext, -⟩ := Scan.next?_of_run? hgap (by decide) hrun
      rw [Scan.next?_quote hrest] at hnext
      obtain ⟨t, c, hread, -⟩ := Scan.quoted?_eq_some hnext
      exact readQuotedFrom_of_halved hhalved (by simp [Cursor.skip, hrest]) hread
  | object hgap hstuck =>
      obtain ⟨s, after, -, hrest, hnext, hafter⟩ := Scan.next?_of_run? hgap (by decide) hrun
      rw [Scan.next?_brace hrest] at hnext
      obtain ⟨hc, hflow⟩ := Scan.openFlow?_eq_some hnext
      exact Scan.run?_of_stuck hflow (by rwa [hc, Cursor.skip, hrest]) hafter
  | number hgap hmagnitude hspace =>
      obtain ⟨d, ds, rfl, hd, front, hfront, rfl⟩ := Taken.of_magnitude hmagnitude
      have hbegin : Scan.beginsGap d = false := by
        simp (disch := decide) [Scan.beginsGap, isBlank, isBreak, Json.ne_of_isDigit hd]
      have hw : ∀ c ∈ d :: front, isNumberChar c = true :=
        List.forall_mem_cons.mpr ⟨by simp [isNumberChar, hd], hfront⟩
      exact parse?_of_number hgap hbegin (fun s => Scan.next?_digit hd) hw hspace hrules
  | negative hgap hmagnitude hspace =>
      obtain ⟨d, ds, rfl, hd, front, hfront, rfl⟩ := Taken.of_magnitude hmagnitude
      have hw : ∀ c ∈ '-' :: d :: front, isNumberChar c = true :=
        List.forall_mem_cons.mpr ⟨by decide, List.forall_mem_cons.mpr
          ⟨by simp [isNumberChar, hd], hfront⟩⟩
      exact @parse?_of_number _ _ _ _ (d :: front) hgap (by decide)
        (fun s => Scan.next?_minus hd) hw hspace hrules

end MailMerge.Yaml
