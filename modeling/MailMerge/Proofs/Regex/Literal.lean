import MailMerge.Proofs.Text.Substring
import MailMerge.Regex.Replace

/-!
# Patterns that are plain text

A pattern in which every character stands for itself, as it is or behind a backslash (`Writes`),
matches the text that it writes and nothing else: its program reads one character after the other
(`program_of_writes`), the search finds the first occurrence of the text (`firstMatch_literal`), and
replacing its matches is replacing plain text (`replaceAll_of_writes`). A pattern without special
characters writes itself (`replaceAll_of_plain`).

A run of such a program from a start stays on one diagonal of instructions and positions, and
different starts have different diagonals. So what was seen from earlier starts never gets in the
way.
-/

namespace MailMerge.Regex

/-- Whether a character means itself in a pattern, without a backslash. -/
def isPlain (c : Char) : Bool := !"\\.+*?()|[]\x7b\x7d^$".toList.contains c

/-! ### Writing -/

/-- A character that stands for itself in a pattern: as it is, or behind a backslash. -/
inductive Letter where
  | plain (c : Char) (h : isPlain c = true)
  | escaped (c : Char) (h : isMeta c = true)

namespace Letter

def char : Letter → Char
  | plain c _ | escaped c _ => c

def written : Letter → List Char
  | plain c _ => [c]
  | escaped c _ => ['\\', c]

end Letter

/-- Whether a pattern is a text in which every character stands for itself. -/
def Writes (source cs : List Char) : Prop :=
  ∃ xs : List Letter, xs.flatMap Letter.written = source ∧ xs.map Letter.char = cs

theorem Writes.nil : Writes [] [] := ⟨[], rfl, rfl⟩

theorem Writes.append {source source' cs cs' : List Char} (h : Writes source cs)
    (h' : Writes source' cs') : Writes (source ++ source') (cs ++ cs') := by
  obtain ⟨xs, rfl, rfl⟩ := h
  obtain ⟨ys, rfl, rfl⟩ := h'
  exact ⟨xs ++ ys, List.flatMap_append, List.map_append⟩

theorem writes_of_plain {cs : List Char} (h : ∀ c ∈ cs, isPlain c = true) : Writes cs cs := by
  induction cs with
  | nil => exact .nil
  | cons c cs ih =>
      obtain ⟨hc, hcs⟩ := List.forall_mem_cons.mp h
      have hone : Writes [c] [c] := ⟨[.plain c hc], rfl, rfl⟩
      exact hone.append (ih hcs)

/-! ### Reading

Each letter is one step of the parser, in a branch of a pattern without groups. So the
expressions come out in the order of the letters, each with the place where it was written,
and none is nested. -/

theorem parseFrom_of_nil {st : ParseState} {c : Cursor} (h : (c.skipBlank st.verbose).rest = [])
    (hgroups : st.groups = []) :
    parseFrom st c = .ok (st.level.toExpr (c.skipBlank st.verbose).offset) := by
  rw [parseFrom]
  split
  · rw [hgroups]
  · next h' =>
    rw [h] at h'
    cases h'

theorem parseFrom_of_cons {st st' : ParseState} {c c' : Cursor} {ch : Char} {rest : List Char}
    (h : (c.skipBlank st.verbose).rest = ch :: rest)
    (hstep : parseStep st ch (c.skipBlank st.verbose) = .ok (st', c')) :
    parseFrom st c = parseFrom st' ((c.skipBlank st.verbose).resume c') := by
  rw [parseFrom]
  split
  · next h' =>
    rw [h] at h'
    cases h'
  · next h' =>
    rw [h] at h'
    cases h'
    rw [hstep]

theorem parseStep_of_isPlain {ch : Char} (h : isPlain ch = true) (st : ParseState) (c : Cursor) :
    parseStep st ch c = .ok (st.push (.literal ⟨c.charSpan, ch, false⟩), c.bump) := by
  have hne : ∀ d ∈ "\\.+*?()|[]\x7b\x7d^$".toList, ch ≠ d := by
    rintro d hd rfl
    rw [isPlain, List.contains_iff_mem.mpr hd] at h
    cases h
  -- a plain character is none of those that the parser has a case for
  rw [parseStep]
  all_goals exact hne _ (by decide)

/-- A character with a special meaning stands for itself behind a backslash. -/
theorem readEscape_of_isMeta {ch : Char} (h : isMeta ch = true) (verbose : Bool) (offset : Nat)
    (rest : List Char) :
    readEscape verbose ⟨offset, '\\' :: ch :: rest⟩ =
      .ok (.literal ⟨⟨offset, offset + 2⟩, ch, false⟩, ⟨offset + 2, rest⟩) := by
  have hother : "\\.+*?()|[]\x7b\x7d^$#&-~".toList.all (fun d => d.isDigit = false ∧
      d ∉ ['x', 'u', 'U', 'p', 'P', 'b']) = true := by decide
  -- the characters with a meaning are no digits and no letters, so no other escape begins with one
  obtain ⟨hdigit, hletter⟩ := of_decide_eq_true
    (List.all_eq_true.mp hother ch (List.contains_iff_mem.mp h))
  simp only [List.mem_cons, List.not_mem_nil, or_false, not_or] at hletter
  simp [readEscape, Cursor.bump, Cursor.drop, Cursor.peek?, Cursor.since, hdigit, hletter,
    isEscapable, h, pure, Except.pure, Nat.add_assoc]

/-- The expressions that letters write from an offset on. -/
def literals (offset : Nat) : List Letter → List Expr
  | [] => []
  | x :: xs => .literal ⟨⟨offset, offset + x.written.length⟩, x.char, false⟩ ::
      literals (offset + x.written.length) xs

/-- The state in which expressions of one branch have been read, which are given last one first. -/
def branchState (items : List Expr) : ParseState := ⟨false, ⟨0, [], 0, items⟩, [], [], 1⟩

/-- Reading a letter adds one expression to the branch. -/
theorem parseFrom_of_letter (items : List Expr) (offset : Nat) (x : Letter) (rest : List Char) :
    parseFrom (branchState items) ⟨offset, x.written ++ rest⟩ =
      parseFrom
        (branchState (.literal ⟨⟨offset, offset + x.written.length⟩, x.char, false⟩ :: items))
        ⟨offset + x.written.length, rest⟩ := by
  cases x with
  | plain c h =>
      have hnext : Cursor.resume ⟨offset, c :: rest⟩ (Cursor.bump ⟨offset, c :: rest⟩) =
          ⟨offset + 1, rest⟩ := by
        simp [Cursor.resume, Cursor.bump, Cursor.drop]
      have hread := parseStep_of_isPlain h (branchState items) ⟨offset, c :: rest⟩
      exact (parseFrom_of_cons rfl hread).trans (congrArg (parseFrom _) hnext)
  | escaped c h =>
      have hnext : Cursor.resume ⟨offset, '\\' :: c :: rest⟩ ⟨offset + 2, rest⟩ =
          ⟨offset + 2, rest⟩ := by
        simp [Cursor.resume, Cursor.drop]
      have hread : parseStep (branchState items) '\\' ⟨offset, '\\' :: c :: rest⟩ =
          .ok ((branchState items).push (.literal ⟨⟨offset, offset + 2⟩, c, false⟩),
            ⟨offset + 2, rest⟩) := by
        show (readEscape false ⟨offset, '\\' :: c :: rest⟩).map _ = _
        rw [readEscape_of_isMeta h]
        rfl
      exact (parseFrom_of_cons rfl hread).trans (congrArg (parseFrom _) hnext)

theorem parseFrom_of_letters (xs : List Letter) (offset : Nat) (items : List Expr) :
    parseFrom (branchState items) ⟨offset, xs.flatMap Letter.written⟩ =
      .ok (.ofItems ⟨0, offset + (xs.flatMap Letter.written).length⟩
        (items.reverse ++ literals offset xs)) := by
  induction xs generalizing offset items with
  | nil =>
      rw [parseFrom_of_nil rfl rfl]
      simp [branchState, Cursor.skipBlank, Level.toExpr, Level.branch, literals]
  | cons x xs ih =>
      rw [List.flatMap_cons, parseFrom_of_letter, ih, literals, List.reverse_cons,
        List.append_assoc, List.length_append, Nat.add_assoc]
      rfl

theorem Expr.ofItems_cons_cons (span : Span) (e e' : Expr) (es : List Expr) :
    Expr.ofItems span (e :: e' :: es) = .concat span (e :: e' :: es) := rfl

theorem tooDeepIn?_literals (depth offset : Nat) (xs : List Letter) :
    Expr.tooDeepIn? depth (literals offset xs) = none := by
  induction xs generalizing offset with
  | nil => rw [literals, Expr.tooDeepIn?]
  | cons x xs ih => simp [literals, Expr.tooDeepIn?, Expr.tooDeep?, ih]

theorem parse_of_letters {source : String} {xs : List Letter}
    (h : xs.flatMap Letter.written = source.toList) :
    parse source = .ok (.ofItems ⟨0, source.toList.length⟩ (literals 0 xs)) := by
  have hfrom := parseFrom_of_letters xs 0 []
  rw [h, List.reverse_nil, List.nil_append, Nat.zero_add] at hfrom
  have hdeep : (Expr.ofItems ⟨0, source.toList.length⟩ (literals 0 xs)).tooDeep? 0 = none := by
    -- one expression is no concatenation, so it is no deeper than the pattern itself
    match xs with
    | [] => rfl
    | [x] => rfl
    | x :: y :: xs =>
        rw [literals, literals, Expr.ofItems_cons_cons, Expr.tooDeep?, if_neg (by decide)]
        exact tooDeepIn?_literals 1 0 (x :: y :: xs)
  have hstart : parseFrom .initial (.ofPattern source) = _ := hfrom
  unfold parse
  rw [hstart]
  simp only [bind, Except.bind, hdeep]
  rfl

/-! ### The pattern

A letter is resolved to the set of its one character, whatever its place. No flag is on that
would widen the set. -/

/-- The pattern of plain text: one character after the other. -/
def Pattern.literal (cs : List Char) : Pattern := .ofItems (cs.map fun c => .chars (.single c))

theorem resolve_literal (span : Span) (c : Char) :
    Expr.resolve .initial (.literal ⟨span, c, false⟩) = .ok (.chars (.single c), .initial) := by
  have hset : Pattern.ofSet .initial (.single c) = .chars (.single c) :=
    congrArg Pattern.chars (CharClass.of_single true c)
  rw [Expr.resolve, ← hset]
  rfl

theorem resolveAll_literals (offset : Nat) (xs : List Letter) :
    Expr.resolveAll .initial (literals offset xs) =
      .ok ((xs.map Letter.char).map fun c => .chars (.single c), .initial) := by
  induction xs generalizing offset with
  | nil => rw [literals, Expr.resolveAll]; rfl
  | cons x xs ih =>
      rw [literals, Expr.resolveAll, resolve_literal]
      simp only [bind, Except.bind, ih]
      rfl

theorem Pattern.concat_chars (cs : List Char) :
    Pattern.concat (cs.map fun c => .chars (.single c)) = Pattern.literal cs := by
  unfold Pattern.concat Pattern.literal
  congr 1
  induction cs with
  | nil => rfl
  | cons c cs ih => rw [List.map_cons, List.flatMap_cons, ih]; rfl

theorem resolve_literals (span : Span) (offset : Nat) (xs : List Letter) :
    Expr.resolve .initial (.ofItems span (literals offset xs)) =
      .ok (Pattern.literal (xs.map Letter.char), .initial) := by
  match xs with
  | [] => rw [literals, Expr.ofItems, Expr.resolve]; rfl
  | [x] => exact resolve_literal _ x.char
  | x :: y :: xs =>
      have hall := resolveAll_literals offset (x :: y :: xs)
      rw [literals, literals] at hall
      -- two letters or more are a concatenation
      rw [literals, literals, Expr.ofItems_cons_cons, Expr.resolve, hall, ← Pattern.concat_chars]
      rfl

theorem ofString?_of_writes {source : String} {cs : List Char} (h : Writes source.toList cs) :
    Pattern.ofString? source = .ok (Pattern.literal cs) := by
  obtain ⟨xs, hsource, rfl⟩ := h
  unfold Pattern.ofString?
  rw [parse_of_letters hsource]
  simp only [bind, Except.bind]
  rw [resolve_literals]

/-! ### The program

Code is written from its end. So the instruction that reads a character has the number of
the characters behind it, and goes to the one below. -/

/-- The program that reads plain text. The instruction with number `n` reads the last `n` characters
from here on. -/
def literalProgram : List Char → Program
  | [] => #[.accept]
  | c :: cs => (literalProgram cs).push (.chars (.single c) cs.length)

@[simp] theorem size_literalProgram (cs : List Char) :
    (literalProgram cs).size = cs.length + 1 := by
  induction cs with
  | nil => rfl
  | cons c cs ih => simp [literalProgram, ih]

theorem compile_literal (cs : List Char) :
    (Pattern.literal cs).compile 0 #[.accept] = (cs.length, literalProgram cs) := by
  induction cs with
  | nil => rfl
  | cons c cs ih =>
      cases cs with
      | nil => rfl
      | cons d cs =>
          have hseq : Pattern.literal (c :: d :: cs) =
              .seq (.chars (.single c)) (Pattern.literal (d :: cs)) := by
            simp [Pattern.literal, Pattern.ofItems]
          rw [hseq, Pattern.compile]
          simp only [ih, Pattern.compile, Program.emit, size_literalProgram]
          rfl

/-- Plain text compiles, unless it is too long, to the program that reads it. -/
theorem program_of_writes {source : String} {cs : List Char} {re : Regex}
    (h : Writes source.toList cs) (hre : compile? source = .ok re) :
    re.entry = cs.length ∧ re.program = literalProgram cs := by
  obtain ⟨p, hp, -, rfl⟩ := eq_of_compile? hre
  obtain rfl := Except.ok.inj (hp.symm.trans (ofString?_of_writes h))
  have hprogram := compile_literal cs
  exact ⟨congrArg Prod.fst hprogram, congrArg Prod.snd hprogram⟩

/-! ### One run

The spot that a run is at moves along its diagonal: one instruction down, one position up.
No spot of the diagonal comes twice, so what was seen is asked of the spots before the run
only. -/

theorem getElem?_literalProgram (front cs : List Char) :
    (literalProgram (front ++ cs))[cs.length]? =
      some (match cs with
        | [] => .accept
        | c :: rest => .chars (.single c) rest.length) := by
  induction front with
  | nil =>
      cases cs with
      | nil => rfl
      | cons c rest =>
          rw [List.nil_append, literalProgram, List.length_cons, ← size_literalProgram rest,
            Array.getElem?_push_size]
  | cons d front ih =>
      have hlt : cs.length < (literalProgram (front ++ cs)).size := by
        rw [size_literalProgram, List.length_append]
        omega
      rw [List.cons_append, literalProgram, Array.getElem?_push_lt hlt, ← ih,
        Array.getElem?_eq_getElem hlt]

theorem contains_single {c d : Char} : (CharSet.single c).contains d = true ↔ d = c := by
  simp only [CharSet.contains, CharSet.has, CharSet.single, CharRange.single, CharRange.has,
    List.any_cons, List.any_nil, Bool.or_false, Bool.and_eq_true, decide_eq_true_eq]
  constructor
  · rintro ⟨h, h'⟩
    exact Char.toNat_inj.mp (by omega)
  · rintro rfl
    exact ⟨Nat.le_refl _, Nat.le_refl _⟩

theorem any_contains_single {o : Option Char} {c : Char} :
    o.any (CharSet.single c).contains = true ↔ o = some c := by
  cases o with
  | none => simp
  | some d => rw [Option.any_some, contains_single, Option.some.injEq]

theorem explore_accept {prog : Program} {text : Array Char} {spot : Spot} {seen : Seen}
    (hinstr : prog[spot.1]? = some .accept) (hpos : spot.2 ≤ text.size)
    (hnew : seen.contains spot = false) (rest : List Spot) :
    explore prog text (spot :: rest) seen = (some spot.2, seen) := by
  obtain ⟨hlt, hget⟩ := Array.getElem?_eq_some_iff.mp hinstr
  rw [explore, dif_pos ⟨hlt, hpos, hnew⟩]
  simp only [hget]

theorem explore_next {prog : Program} {text : Array Char} {spot : Spot} {seen : Seen} {i : Instr}
    (hinstr : prog[spot.1]? = some i) (hi : i ≠ .accept) (hpos : spot.2 ≤ text.size)
    (hnew : seen.contains spot = false) (rest : List Spot) :
    explore prog text (spot :: rest) seen =
      explore prog text (i.next text spot.2 ++ rest) (seen.insert spot) := by
  obtain ⟨hlt, hget⟩ := Array.getElem?_eq_some_iff.mp hinstr
  rw [explore, dif_pos ⟨hlt, hpos, hnew⟩]
  cases i with
  | accept => exact absurd rfl hi
  | chars s next => simp only [hget]
  | look l next => simp only [hget]
  | split first second => simp only [hget]

theorem cons_prefix_drop_iff {text : List Char} {c : Char} {cs : List Char} {n : Nat} :
    c :: cs <+: text.drop n ↔ text[n]? = some c ∧ cs <+: text.drop (n + 1) := by
  rcases Nat.lt_or_ge n text.length with hlt | hge
  · rw [← List.getElem_cons_drop hlt, List.cons_prefix_cons, List.getElem?_eq_getElem hlt,
      Option.some.injEq, eq_comm]
  · simp [List.drop_eq_nil_of_le hge, hge]

/-- A run of plain text accepts behind the text if it stands there, unless it comes to a place that
was seen. All that it sees lies on its diagonal. -/
theorem explore_literal {text : Array Char} {front cs : List Char} {pos : Nat} {seen : Seen}
    (hpos : pos ≤ text.size)
    (hnew : ∀ spot : Spot, spot.1 ≤ cs.length → spot.1 + spot.2 = cs.length + pos →
      seen.contains spot = false) :
    let answer := explore (literalProgram (front ++ cs)) text [(cs.length, pos)] seen
    (∀ stop, answer.1 = some stop ↔ cs <+: text.toList.drop pos ∧ stop = pos + cs.length) ∧
      ∀ spot, answer.2.contains spot = true →
        seen.contains spot = true ∨ spot.1 + spot.2 = cs.length + pos := by
  induction cs generalizing front pos seen with
  | nil =>
      rw [explore_accept (getElem?_literalProgram front []) hpos (hnew _ (Nat.le_refl _) rfl)]
      refine ⟨fun stop => ?_, fun spot h => Or.inl h⟩
      simp [eq_comm]
  | cons c cs ih =>
      rw [explore_next (getElem?_literalProgram front (c :: cs)) (by simp) hpos
        (hnew _ (Nat.le_refl _) rfl), List.append_nil]
      simp only [cons_prefix_drop_iff, Array.getElem?_toList, Instr.next, List.length_cons]
      by_cases hchar : text[pos]? = some c
      · -- the character is there, and the run goes one place further on the diagonal
        obtain ⟨hlt, -⟩ := Array.getElem?_eq_some_iff.mp hchar
        have hsame : front ++ c :: cs = front ++ [c] ++ cs := by simp
        have hnew' : ∀ spot : Spot, spot.1 ≤ cs.length → spot.1 + spot.2 = cs.length + (pos + 1) →
            (seen.insert (cs.length + 1, pos)).contains spot = false := by
          intro spot hle hsum
          have hne : (cs.length + 1, pos) ≠ spot := by
            rintro rfl
            exact Nat.not_succ_le_self _ hle
          have hold := hnew spot (Nat.le_succ_of_le hle) (by rw [hsum, List.length_cons]; omega)
          simp [hne, hold]
        obtain ⟨hstop, hseen⟩ := @ih (front ++ [c]) (pos + 1) _ hlt hnew'
        rw [if_pos (any_contains_single.mpr hchar), hsame]
        refine ⟨fun stop => ?_, fun spot hspot => ?_⟩
        · rw [hstop, and_iff_right hchar, Nat.add_assoc, Nat.add_comm 1]
        · rcases hseen spot hspot with hold | hsum
          · rw [Std.HashSet.contains_insert, Bool.or_eq_true, beq_iff_eq] at hold
            rcases hold with rfl | hold
            · exact Or.inr rfl
            · exact Or.inl hold
          · right
            omega
      -- another character stands there, and the run ends
      · rw [if_neg (mt any_contains_single.mp hchar), explore]
        refine ⟨fun stop => ?_, fun spot hspot => ?_⟩
        · simp [hchar]
        · rw [Std.HashSet.contains_insert, Bool.or_eq_true, beq_iff_eq] at hspot
          rcases hspot with rfl | hold
          · exact Or.inr rfl
          · exact Or.inl hold

/-! ### Searching

The search starts a run at each position, and hands on what was seen. A run from a later
start is on a later diagonal, so to it all that was seen is new. -/

/-- The search takes the first occurrence of plain text, if there is one. -/
theorem firstMatch_literal {text : Array Char} {cs : List Char} {start : Nat} {seen : Seen}
    (hnew : ∀ spot : Spot, cs.length + start ≤ spot.1 + spot.2 → seen.contains spot = false) :
    match firstMatch (literalProgram cs) cs.length text start seen with
    | some m => start ≤ m.start ∧ m.stop = m.start + cs.length ∧
        cs <+: text.toList.drop m.start ∧
        ∀ n, start ≤ n → n < m.start → ¬ cs <+: text.toList.drop n
    | none => ∀ n, start ≤ n → n ≤ text.size → ¬ cs <+: text.toList.drop n := by
  fun_induction firstMatch (literalProgram cs) cs.length text start seen with
  | case1 start seen hle stop seen' heq =>
      have hrun := (@explore_literal text [] cs start seen hle
        fun spot _ hsum => hnew spot (Nat.le_of_eq hsum.symm)).1 stop
      rw [List.nil_append, heq] at hrun
      obtain ⟨hoccurs, hstop⟩ := hrun.mp rfl
      exact ⟨Nat.le_refl _, hstop, hoccurs, fun n hn hlt => absurd hlt (Nat.not_lt.mpr hn)⟩
  | case2 start seen hle seen' heq ih =>
      obtain ⟨hrun, hseen⟩ := @explore_literal text [] cs start seen hle
        fun spot _ hsum => hnew spot (Nat.le_of_eq hsum.symm)
      rw [List.nil_append, heq] at hrun hseen
      have hhere : ¬ cs <+: text.toList.drop start := fun hoccurs => by
        cases (hrun _).mpr ⟨hoccurs, rfl⟩
      -- later starts have later diagonals
      have hnew' : ∀ spot : Spot, cs.length + (start + 1) ≤ spot.1 + spot.2 →
          seen'.contains spot = false := by
        intro spot hsum
        rw [← Bool.not_eq_true]
        intro hspot
        rcases hseen spot hspot with hold | hdiagonal
        · rw [hnew spot (by omega)] at hold
          cases hold
        · omega
      have hlater := ih hnew'
      split at hlater
      · obtain ⟨hstart, hstop, hoccurs, hnone⟩ := hlater
        refine ⟨Nat.le_of_succ_le hstart, hstop, hoccurs, fun n hn hlt => ?_⟩
        rcases Nat.eq_or_lt_of_le hn with rfl | hn
        · exact hhere
        · exact hnone n hn hlt
      · intro n hn hle'
        rcases Nat.eq_or_lt_of_le hn with rfl | hn
        · exact hhere
        · exact hlater n hn hle'
  | case3 start seen hgt => exact fun n hn hle => absurd (Nat.le_trans hn hle) hgt

/-! ### Replacing -/

/-- An occurrence that is not empty is the next match, wherever the last one ended. -/
theorem findNext_eq_find {re : Regex} {text : Array Char} {start : Nat}
    (h : ∀ m, re.find text start = some m → m.start ≠ m.stop) (last : Option Nat) :
    re.findNext text start last = re.find text start := by
  unfold findNext
  split
  · next hnone => rw [hnone]
  · next m hm => rw [if_neg fun hempty => h m hm hempty.1, hm]

/-- Replacing match after match is replacing occurrence after occurrence. -/
theorem substituteFrom_spansFrom {re : Regex} {cs : List Char} (hcs : cs ≠ [])
    (hentry : re.entry = cs.length) (hprogram : re.program = literalProgram cs)
    (new : List Char) (text : Array Char) (start : Nat) (last : Option Nat) :
    substituteFrom new text start (re.spansFrom text start last) =
      Text.replaceChars cs new (text.toList.drop start) := by
  have hfind : ∀ i, re.find text i = firstMatch (literalProgram cs) cs.length text i ∅ := by
    intro i
    rw [find, hentry, hprogram]
  have hnext : ∀ i last', re.findNext text i last' = re.find text i := by
    intro i last'
    refine findNext_eq_find (fun m hm hempty => ?_) last'
    have hmatch := @firstMatch_literal text cs i ∅ (by simp)
    rw [← hfind, hm] at hmatch
    have hpos := List.length_pos_iff.mpr hcs
    have hstop := hmatch.2.1
    omega
  fun_induction re.spansFrom text start last with
  | case1 start last h =>
      -- no match is left: the text does not occur, and nothing is replaced
      have hmatch := @firstMatch_literal text cs start ∅ (by simp)
      rw [← hfind, ← hnext start last, h] at hmatch
      rw [substituteFrom, Text.replaceChars_eq_self]
      intro n hn
      rw [List.length_drop, Array.length_toList] at hn
      rw [List.drop_drop]
      exact hmatch (start + n) (Nat.le_add_right start n) (by omega)
  | case2 start last m h ih =>
      have hmatch := @firstMatch_literal text cs start ∅ (by simp)
      rw [← hfind, ← hnext start last, h] at hmatch
      obtain ⟨hstart, hstop, ⟨rest, hrest⟩, hbefore⟩ := hmatch
      -- the text from here on is what stands before the match, the match, and the rest
      have hbehind : text.toList.drop m.stop = rest := by
        rw [hstop, ← List.drop_drop, ← hrest, List.drop_left]
      have hfront : text.toList.drop start =
          (text.extract start m.start).toList ++ (cs ++ rest) := by
        have hsplit := List.take_append_drop (m.start - start) (text.toList.drop start)
        rw [List.drop_drop, Nat.add_sub_cancel' hstart] at hsplit
        rw [hrest, Array.toList_extract, List.extract_eq_take_drop, hsplit]
      have hle : m.start ≤ text.size := by
        have hbounds := findNext_bounds h
        omega
      have hnone : ∀ n < (text.extract start m.start).toList.length,
          ¬ cs <+: ((text.extract start m.start).toList ++ (cs ++ rest)).drop n := by
        intro n hn
        rw [Array.length_toList, Array.size_extract, Nat.min_eq_left hle] at hn
        rw [← hfront, List.drop_drop]
        exact hbefore (start + n) (Nat.le_add_right start n) (by omega)
      rw [substituteFrom, ih, hbehind, hfront, Text.replaceChars_append hnone,
        Text.replaceChars_old_append hcs, List.append_assoc]

/-- Replacing the matches of a pattern that writes plain text is replacing that text. -/
theorem replaceAll_of_writes {source literal : String} {re : Regex}
    (hwrites : Writes source.toList literal.toList) (hne : literal ≠ "")
    (hre : compile? source = .ok re) (text new : String) :
    re.replaceAll text new = Text.replace text literal new := by
  obtain ⟨hentry, hprogram⟩ := program_of_writes hwrites hre
  have hcs : literal.toList ≠ [] := fun h => hne (String.toList_eq_nil_iff.mp h)
  unfold replaceAll Text.replace spans
  dsimp only
  rw [substituteFrom_spansFrom hcs hentry hprogram]
  rfl

theorem replaceAll_of_plain {source : String} {re : Regex}
    (hplain : ∀ c ∈ source.toList, isPlain c = true) (hne : source ≠ "")
    (hre : compile? source = .ok re) (text new : String) :
    re.replaceAll text new = Text.replace text source new :=
  replaceAll_of_writes (writes_of_plain hplain) hne hre text new

end MailMerge.Regex
