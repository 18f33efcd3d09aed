import MailMerge.Yaml.Scalar

/-!
# Reading YAML texts in quotes

What a text in quotes on one line stands for, as a relation (`Spells`), and that it is read so
(`readQuoted_of_spells`). In single quotes a quote is written twice; in double quotes every
character may be written by an escape. Either style has a spelling for every printable text on one
line (`exists_spells`).
-/

namespace MailMerge.Yaml

/-! ### Cursors on one line

Reading on one line only ever moves the cursor forward by so many characters. `skipMany` is
that move for any number of them, and all readers here are brought down to it. -/

namespace Cursor

variable {c : Cursor} {n m : Nat}

theorem skip_eq_skipMany (c : Cursor) : c.skip = c.skipMany 1 := rfl

theorem skipMany_skipMany : (c.skipMany n).skipMany m = c.skipMany (n + m) := by
  simp [skipMany, List.drop_drop, Nat.add_assoc]

@[simp] theorem rest_skipMany : (c.skipMany n).rest = c.rest.drop n := rfl

@[simp] theorem index_skipMany : (c.skipMany n).index = c.index + n := rfl

@[simp] theorem line_skipMany : (c.skipMany n).line = c.line := rfl

@[simp] theorem column_skipMany : (c.skipMany n).column = c.column + n := rfl

theorem rest_skipMany_of_append {front rest : List Char} (h : c.rest = front ++ rest) :
    (c.skipMany front.length).rest = rest := by
  rw [rest_skipMany, h, List.drop_left]

/-- Behind the front of a text its back is read from a place on the same line. -/
theorem skipMany_front {front back more : List Char} (hrest : c.rest = (front ++ back) ++ more)
    (hcolumn : c.column ≠ 0) :
    (c.skipMany front.length).rest = back ++ more ∧ (c.skipMany front.length).column ≠ 0 ∧
      c.skipMany ((front ++ back).length + 1) =
        (c.skipMany front.length).skipMany (back.length + 1) := by
  rw [List.append_assoc] at hrest
  refine ⟨rest_skipMany_of_append hrest, ?_, ?_⟩
  · rw [column_skipMany]
    omega
  · rw [skipMany_skipMany, List.length_append, Nat.add_assoc]

/-- Marks of a document stand at the start of a line. -/
theorem atAnyMark_of_column (h : c.column ≠ 0) : c.atAnyMark = false := by
  simp [atAnyMark, atDocumentMark, h]

end Cursor

/-! ### What stands in quotes

The quotes are not part of what `Spells` relates; it gives the text between them from front
to back, one case for each way to write a character. What may stand for itself depends on
the style: a backslash begins an escape in double quotes only. -/

/-- The quote of a style. -/
def quoteOf (single : Bool) : Char := if single then '\'' else '"'

/-- The characters that a text between quotes on one line stands for. -/
inductive Spells : Bool → List Char → List Char → Prop
  | nil {single} : Spells single [] []
  | raw {single c s cs} : isPrintable c = true → isBreak c = false → c ≠ quoteOf single →
      (single = false → c ≠ '\\') → Spells single s cs → Spells single (c :: s) (c :: cs)
  | quote {s cs} : Spells true s cs → Spells true ('\'' :: s) ('\'' :: '\'' :: cs)
  | escape {l c s cs} : escapeChar? l = some c → Spells false s cs →
      Spells false (c :: s) ('\\' :: l :: cs)
  | code {l ds s cs} : escapeDigits? l = some ds.length →
      (∀ d ∈ ds, (Unicode.hexDigit? d).isSome = true) → (Unicode.hexNumber ds).isValidChar →
      Spells false s cs →
        Spells false (Char.ofNat (Unicode.hexNumber ds) :: s) ('\\' :: l :: (ds ++ cs))

/-- Every printable text on one line can be written in either style. -/
theorem exists_spells (single : Bool) {s : List Char}
    (h : ∀ c ∈ s, isPrintable c = true ∧ isBreak c = false) : ∃ body, Spells single s body := by
  induction s with
  | nil => exact ⟨[], .nil⟩
  | cons c s ih =>
      obtain ⟨⟨hprintable, hbreak⟩, hs⟩ := List.forall_mem_cons.mp h
      obtain ⟨body, hbody⟩ := ih hs
      by_cases hquote : c = quoteOf single
      -- the quote of the style itself: twice in single quotes, behind a backslash in double ones
      · subst hquote
        cases single with
        | true => exact ⟨_, .quote hbody⟩
        | false => exact ⟨_, @Spells.escape '"' '"' s body rfl hbody⟩
      -- in double quotes a backslash has to be escaped too
      · by_cases hslash : single = false ∧ c = '\\'
        · obtain ⟨rfl, rfl⟩ := hslash
          exact ⟨_, @Spells.escape '\\' '\\' s body rfl hbody⟩
        · exact ⟨_, .raw hprintable hbreak hquote (fun hs heq => hslash ⟨hs, heq⟩) hbody⟩

/-! ### Steps of the reader

One equation for each thing the reader can find at a place inside the quotes. The place is
never the start of a line, so the marks that end a document play no part. -/

variable {single : Bool} {bound : List Unit} {read rest : List Char} {gap : Gap} {c : Cursor}
  {ch : Char}

theorem readQuotedFrom_blank (hmark : c.atAnyMark = false) (hrest : c.rest = ch :: rest)
    (hblank : isBlank ch = true) :
    readQuotedFrom single (() :: bound) read gap c =
      readQuotedFrom single bound read (gap.blank ch) c.skip := by
  simp [readQuotedFrom, hmark, Cursor.peek?, hrest, hblank]

theorem readQuotedFrom_break (hmark : c.atAnyMark = false) (hrest : c.rest = ch :: rest)
    (hblank : isBlank ch = false) (hbreak : isBreak ch = true) :
    readQuotedFrom single (() :: bound) read gap c =
      readQuotedFrom single bound read (gap.line c.breakChar) c.skipLine := by
  simp [readQuotedFrom, hmark, Cursor.peek?, hrest, hblank, hbreak]

theorem readQuotedFrom_raw (hmark : c.atAnyMark = false) (hrest : c.rest = ch :: rest)
    (hblank : isBlank ch = false) (hbreak : isBreak ch = false) (hquote : ch ≠ quoteOf single)
    (hslash : single = false → ch ≠ '\\') :
    readQuotedFrom single (() :: bound) read gap c =
      readQuotedFrom single bound (ch :: (gap.text.reverse ++ read)) .none c.skip := by
  -- a character other than the quote neither doubles it nor ends the text
  have hdouble : ¬ (single = true ∧ ch = '\'' ∧ c.at? 1 = some '\'') := by
    rintro ⟨rfl, rfl, -⟩
    exact hquote rfl
  have hescape : ¬ ((!single) = true ∧ ch = '\\') := by
    rintro ⟨hsingle, rfl⟩
    exact hslash (by simpa using hsingle) rfl
  rw [quoteOf] at hquote
  simp only [readQuotedFrom, hmark, Cursor.peek?, hrest, hblank, hbreak, List.head?_cons,
    Bool.false_eq_true, if_false, if_neg hdouble, if_neg hquote, if_neg hescape]

theorem readQuotedFrom_close (hmark : c.atAnyMark = false) (hrest : c.rest = quoteOf single :: rest)
    (hend : single = true → rest.head? ≠ some '\'') :
    readQuotedFrom single (() :: bound) read gap c =
      some ((gap.text.reverse ++ read).reverse, c.skip) := by
  have hat : c.at? 1 = rest.head? := by
    rw [Cursor.at?, hrest, List.getElem?_cons_succ, List.head?_eq_getElem?]
  cases single with
  | true =>
      have hdouble : ¬ rest.head? = some '\'' := hend rfl
      simp [readQuotedFrom, hmark, Cursor.peek?, hrest, hat, quoteOf, isBlank, isBreak, hdouble]
  | false => simp [readQuotedFrom, hmark, Cursor.peek?, hrest, quoteOf, isBlank, isBreak]

theorem readQuotedFrom_quote (hmark : c.atAnyMark = false)
    (hrest : c.rest = '\'' :: '\'' :: rest) :
    readQuotedFrom true (() :: bound) read gap c =
      readQuotedFrom true bound ('\'' :: (gap.text.reverse ++ read)) .none (c.skipMany 2) := by
  simp [readQuotedFrom, hmark, Cursor.peek?, Cursor.at?, hrest, isBlank, isBreak]

theorem readQuotedFrom_escape (hmark : c.atAnyMark = false)
    (hrest : c.rest = '\\' :: ch :: rest) (hbreak : isBreak ch = false) :
    readQuotedFrom false (() :: bound) read gap c =
      match readEscape? c with
      | none => none
      | some (d, n) =>
        readQuotedFrom false bound (d :: (gap.text.reverse ++ read)) .none (c.skipMany n) := by
  have hslash : isBlank '\\' = false ∧ isBreak '\\' = false := ⟨rfl, rfl⟩
  simp only [readQuotedFrom, hmark, Cursor.peek?, Cursor.at?, hrest, hslash, hbreak,
    List.head?_cons, List.getElem?_cons_succ, List.getElem?_cons_zero, Option.any_some,
    Bool.false_eq_true, if_false]
  rfl

/-! ### Escapes

What follows a backslash is a letter that stands for a character, or a letter that says how
many digits follow. No letter does both, and none is a break of the line, which would join
two lines instead. -/

theorem readEscape?_of_letter {l : Char} (hrest : c.rest = '\\' :: l :: rest)
    (hl : escapeChar? l = some ch) : readEscape? c = some (ch, 2) := by
  have hdigits : escapeDigits? l = none := by
    unfold escapeDigits?
    split
    · cases hl
    · cases hl
    · cases hl
    · rfl
  simp [readEscape?, Cursor.at?, hrest, hdigits, hl]

theorem readEscape?_of_code {l : Char} {ds : List Char} (hrest : c.rest = '\\' :: l :: (ds ++ rest))
    (hl : escapeDigits? l = some ds.length)
    (hds : ∀ d ∈ ds, (Unicode.hexDigit? d).isSome = true) :
    readEscape? c = if (Unicode.hexNumber ds).isValidChar then
      some (Char.ofNat (Unicode.hexNumber ds), ds.length + 2) else none := by
  have hletter : c.at? 1 = some l := by
    rw [Cursor.at?, hrest]
    rfl
  have hdigits : (c.rest.drop 2).take ds.length = ds := by
    rw [hrest]
    exact List.take_left
  have hall : (ds.all fun d => (Unicode.hexDigit? d).isSome) = true := List.all_eq_true.mpr hds
  unfold readEscape?
  rw [hletter]
  simp only [bind, Option.bind, hl, hdigits, hall, and_self, if_true]
  rfl

theorem isBreak_of_escapeChar? {l : Char} (hl : escapeChar? l = some ch) : isBreak l = false := by
  unfold escapeChar? at hl
  split at hl
  all_goals first | rfl | cases hl

theorem isBreak_of_escapeDigits? {l : Char} {n : Nat} (hl : escapeDigits? l = some n) :
    isBreak l = false := by
  unfold escapeDigits? at hl
  split at hl
  all_goals first | rfl | cases hl

/-! ### Whole texts

Blanks are held back until it is known whether a word follows them, since at the end of a
line they would be dropped. On one line one always follows, or the quote, so in the end they
are all read. The induction is on the spelling, and has to allow for blanks that are being
held back. -/

/-- The blanks read behind a word, last one first. -/
def blanksOf (blanks : List Char) : Gap := ⟨blanks, false, [], []⟩

@[simp] theorem text_blanksOf (blanks : List Char) : (blanksOf blanks).text = blanks.reverse := rfl

theorem readQuotedFrom_of_spells {s body more blanks : List Char} (h : Spells single s body)
    (hend : single = true → more.head? ≠ some '\'') (hcolumn : c.column ≠ 0)
    (hrest : c.rest = body ++ quoteOf single :: more) (hbound : body.length < bound.length) :
    readQuotedFrom single bound read (blanksOf blanks) c =
      some ((blanks ++ read).reverse ++ s, c.skipMany (body.length + 1)) := by
  induction h generalizing bound read blanks c with
  -- the closing quote; the blanks before it belong to the text
  | nil =>
      obtain ⟨_, bound, rfl⟩ := List.exists_cons_of_length_pos (Nat.zero_lt_of_lt hbound)
      rw [readQuotedFrom_close (Cursor.atAnyMark_of_column hcolumn) hrest hend]
      simp [Cursor.skip_eq_skipMany]
  | @raw single ch s cs _ hbreak hquote hslash _ ih =>
      obtain ⟨_, bound, rfl⟩ := List.exists_cons_of_length_pos (Nat.zero_lt_of_lt hbound)
      have hmark := Cursor.atAnyMark_of_column hcolumn
      obtain ⟨hrest', hcolumn', hskip⟩ := @Cursor.skipMany_front c [ch] cs _ hrest hcolumn
      have hshort : cs.length < bound.length := by simpa using hbound
      rw [show c.skipMany ((ch :: cs).length + 1) = _ from hskip]
      cases hblank : isBlank ch with
      -- one more blank is held back
      | true =>
          rw [readQuotedFrom_blank hmark hrest hblank]
          refine (@ih bound read c.skip (ch :: blanks) hend hcolumn' hrest' hshort).trans ?_
          simp [Cursor.skip_eq_skipMany]
      -- a character that is none takes the blanks before it along
      | false =>
          rw [readQuotedFrom_raw hmark hrest hblank hbreak hquote hslash]
          refine (@ih bound _ c.skip [] hend hcolumn' hrest' hshort).trans ?_
          simp [Cursor.skip_eq_skipMany]
  | @quote s cs _ ih =>
      obtain ⟨_, bound, rfl⟩ := List.exists_cons_of_length_pos (Nat.zero_lt_of_lt hbound)
      obtain ⟨hrest', hcolumn', hskip⟩ := @Cursor.skipMany_front c ['\'', '\''] cs _ hrest hcolumn
      have hshort : cs.length < bound.length := by
        simp only [List.length_cons] at hbound
        omega
      rw [show c.skipMany (('\'' :: '\'' :: cs).length + 1) = _ from hskip,
        readQuotedFrom_quote (Cursor.atAnyMark_of_column hcolumn) hrest]
      refine (@ih bound _ (c.skipMany 2) [] hend hcolumn' hrest' hshort).trans ?_
      simp
  | @escape l ch s cs hl _ ih =>
      obtain ⟨_, bound, rfl⟩ := List.exists_cons_of_length_pos (Nat.zero_lt_of_lt hbound)
      obtain ⟨hrest', hcolumn', hskip⟩ := @Cursor.skipMany_front c ['\\', l] cs _ hrest hcolumn
      have hshort : cs.length < bound.length := by
        simp only [List.length_cons] at hbound
        omega
      rw [show c.skipMany (('\\' :: l :: cs).length + 1) = _ from hskip,
        readQuotedFrom_escape (Cursor.atAnyMark_of_column hcolumn) hrest
          (isBreak_of_escapeChar? hl),
        readEscape?_of_letter hrest hl]
      refine (@ih bound _ (c.skipMany 2) [] hend hcolumn' hrest' hshort).trans ?_
      simp
  | @code l ds s cs hl hds hvalid _ ih =>
      obtain ⟨_, bound, rfl⟩ := List.exists_cons_of_length_pos (Nat.zero_lt_of_lt hbound)
      obtain ⟨hrest', hcolumn', hskip⟩ :=
        @Cursor.skipMany_front c ('\\' :: l :: ds) cs _ hrest hcolumn
      have hshort : cs.length < bound.length := by
        simp only [List.length_cons, List.length_append] at hbound
        omega
      -- the digits stand apart from what follows them
      have hcode : c.rest = '\\' :: l :: (ds ++ (cs ++ quoteOf false :: more)) := by
        rw [hrest]
        simp
      rw [show c.skipMany (('\\' :: l :: (ds ++ cs)).length + 1) = _ from hskip,
        readQuotedFrom_escape (Cursor.atAnyMark_of_column hcolumn) hrest
          (isBreak_of_escapeDigits? hl), readEscape?_of_code hcode hl hds, if_pos hvalid]
      refine (@ih bound _ (c.skipMany (ds.length + 2)) [] hend hcolumn' hrest' hshort).trans ?_
      simp

/-- A text in quotes on one line is read as the characters it stands for. -/
theorem readQuoted_of_spells {s body more : List Char} (h : Spells single s body)
    (hend : single = true → more.head? ≠ some '\'')
    (hrest : c.rest = quoteOf single :: (body ++ quoteOf single :: more)) :
    readQuoted single c = some (s, c.skipMany (body.length + 2)) := by
  have hbound : body.length < (List.replicate (c.rest.length + 1) ()).length := by
    rw [List.length_replicate, hrest, List.length_cons, List.length_append]
    omega
  have hinside : c.skip.rest = body ++ quoteOf single :: more := by
    rw [Cursor.skip_eq_skipMany, Cursor.rest_skipMany, hrest]
    rfl
  refine (@readQuotedFrom_of_spells single _ [] c.skip s body more [] h hend (Nat.succ_ne_zero _)
    hinside hbound).trans ?_
  rw [Cursor.skip_eq_skipMany, Cursor.skipMany_skipMany, Nat.add_comm 1]
  rfl

end MailMerge.Yaml
