import MailMerge.Proofs.Yaml.Quoted
import MailMerge.Proofs.Yaml.Scan
import MailMerge.Yaml.Mapping

/-!
# Rules written line by line

Rules may be written one on a line, each a key and a value in quotes with a colon between them
(`Lines`). The scanner goes from line to line (`run?_of_lines`), and from its tokens the rules are
read as the lines give them (`parse?_of_lines`).
-/

namespace MailMerge.Yaml

/-- A text as it is written in quotes on one line. -/
structure Quotation where
  single : Bool
  text : List Char
  body : List Char
  spells : Spells single text body

/-- What is written. -/
def Quotation.written (q : Quotation) : List Char :=
  quoteOf q.single :: (q.body ++ [quoteOf q.single])

/-- A rule as it is written on one line. -/
structure Line where
  key : Quotation
  value : Quotation
  /-- A longer text would be no key. -/
  short : key.written.length ≤ keyLimit

namespace Line

/-- What is written. -/
def written (l : Line) : List Char := l.key.written ++ ':' :: ' ' :: l.value.written

/-- The pattern and the text for its matches. -/
def rule (l : Line) : String × String := (String.ofList l.key.text, String.ofList l.value.text)

end Line

/-- Lines in a text, each below the one before. A line feed may stand behind the last one. -/
inductive Lines : List Line → List Char → Prop
  | last (l : Line) : Lines [l] l.written
  | ended (l : Line) : Lines [l] (l.written ++ ['\n'])
  | more (l : Line) {lines cs} : Lines lines cs → Lines (l :: lines) (l.written ++ '\n' :: cs)

theorem Lines.exists_cons {lines : List Line} {cs : List Char} (h : Lines lines cs) :
    ∃ l lines', lines = l :: lines' ∧ ∃ more, cs = l.written ++ more := by
  cases h with
  | last l => exact ⟨l, [], rfl, [], (List.append_nil _).symm⟩
  | ended l => exact ⟨l, [], rfl, _, rfl⟩
  | more l => exact ⟨l, _, rfl, _, rfl⟩

namespace Scan

variable {s s' : Scan} {q : Quotation} {l : Line} {more : List Char} {tokens : List Token}
  {c : Cursor} {first : Bool}

/-! ### Quotations

What stands in quotes is read by `Proofs.Yaml.Quoted`; here the scanner sees which quote it
is, and keeps the place where the text began, since a colon may follow. -/

theorem beginsGap_quoteOf (single : Bool) : beginsGap (quoteOf single) = false := by
  cases single <;> decide

theorem next?_quoteOf (hrest : s.c.rest = q.written ++ more) :
    next? s (quoteOf q.single) = quoted? s q.single := by
  obtain ⟨single, text, body, spells⟩ := q
  cases single with
  | true => exact next?_singleQuote hrest
  | false => exact next?_quote hrest

theorem quoted?_of_quotation (hsave : s.saveKey? = some s') (hc : s'.c = s.c)
    (hrest : s.c.rest = q.written ++ more) (hend : more.head? ≠ some '\'') :
    quoted? s q.single = some ({ s' with keyAllowed := false }.emit (.scalar q.text)
      (s.c.skipMany q.written.length)) := by
  have hcons : s.c.rest = quoteOf q.single :: (q.body ++ quoteOf q.single :: more) := by
    simp [hrest, Quotation.written]
  have hread := readQuoted_of_spells q.spells (fun _ => hend) hcons
  have hlength : q.written.length = q.body.length + 2 := by simp [Quotation.written]
  simp [quoted?, keyToken?, hsave, hc, hread, hlength]

/-! ### The states on a line

On a line the scanner goes through four states: before the key, behind it, behind the colon
and behind the value. The last two differ in their tokens only. On the first line no block
is open yet: its colon opens the one that the other lines are in. -/

/-- Before a line, `first` being the first one. Then no block is open yet. -/
def lineStart (first : Bool) (tokens : List Token) (c : Cursor) : Scan :=
  { c, tokens := tokens.toArray, indent := if first then -1 else 0,
    outer := if first then [] else [-1], keyAllowed := true, key := none, outerKeys := [] }

/-- Behind a key that was read from the start of a line. -/
def keyEnd (first : Bool) (tokens : List Token) (c : Cursor) (q : Quotation) : Scan :=
  { c := c.skipMany q.written.length, tokens := (tokens ++ [Token.scalar q.text]).toArray,
    indent := if first then -1 else 0, outer := if first then [] else [-1], keyAllowed := false,
    key := some ⟨tokens.length, !first, c.index, c.line, 0⟩, outerKeys := [] }

/-- Behind a colon or a value. -/
def inLine (tokens : List Token) (c : Cursor) : Scan :=
  { c, tokens := tokens.toArray, indent := 0, outer := [-1], keyAllowed := false, key := none,
    outerKeys := [] }

/-- The tokens of a key and the colon behind it. -/
def keyTokens (first : Bool) (text : List Char) : List Token :=
  (if first then [.blockMappingStart] else []) ++ [.key, .scalar text, .value]

/-- A step that ends no block. -/
theorem run?_token {here after : Scan} {ch : Char} {rest : List Char}
    (hhere : s.skipGap.dropStale? = some here) (hindent : here.indent ≤ here.c.column)
    (hrest : here.c.rest = ch :: rest) (hnext : next? here ch = some after)
    (hlt : after.c.rest.length < s.c.rest.length) : run? s = run? after :=
  run?_next hhere hrest (by rwa [closeTo_of_le hindent]) hlt

/-- A key is read. -/
theorem run?_key (hhere : s.skipGap.dropStale? = some (lineStart first tokens c))
    (hrest : c.rest = q.written ++ ':' :: more) (hcolumn : c.column = 0)
    (hle : c.rest.length ≤ s.c.rest.length) : run? s = run? (keyEnd first tokens c q) := by
  have hindent : (lineStart first tokens c).indent ≤ c.column := by
    cases first <;> simp [lineStart, hcolumn]
  -- the place of the key is kept; only on the first line may the text begin a block
  have hsave : (lineStart first tokens c).saveKey? = some { lineStart first tokens c with
      key := some ⟨tokens.length, !first, c.index, c.line, 0⟩ } := by
    cases first <;> simp [saveKey?, dropKey?, lineStart, inFlow, hcolumn]
  have hnext : next? (lineStart first tokens c) (quoteOf q.single) =
      some (keyEnd first tokens c q) := by
    rw [next?_quoteOf hrest, quoted?_of_quotation hsave rfl hrest (by simp)]
    simp [emit, lineStart, keyEnd]
  refine run?_token hhere hindent hrest hnext (Nat.lt_of_lt_of_le ?_ hle)
  simp only [keyEnd, Cursor.rest_skipMany, List.length_drop, hrest, Quotation.written,
    List.length_append, List.length_cons]
  omega

theorem insertAt_length (tokens new : List Token) (t : Token) :
    insertAt (tokens ++ [t]).toArray tokens.length new = (tokens ++ new ++ [t]).toArray := by
  apply Array.toList_inj.mp
  simp [insertAt]

/-- The colon makes a key of what stands before it, and the first one opens the block. -/
theorem run?_colon (hshort : q.written.length ≤ keyLimit)
    (hrest : c.rest = q.written ++ ':' :: ' ' :: more) :
    run? (keyEnd first tokens c q) =
      run? (inLine (tokens ++ keyTokens first q.text)
        (c.skipMany (q.written.length + 1))) := by
  have hcolon : (keyEnd first tokens c q).c.rest = ':' :: ' ' :: more :=
    Cursor.rest_skipMany_of_append hrest
  -- the key is short and on this line, so it is not forgotten
  have hhere : (keyEnd first tokens c q).skipGap.dropStale? = some (keyEnd first tokens c q) := by
    rw [skipGap_of_stop (by simp [hcolon, beginsGap, isBlank, isBreak])]
    refine dropStale?_of_fresh (fun k hk => ?_) rfl
    obtain rfl := Option.some.inj hk
    simp [PossibleKey.isStale, keyEnd, hshort]
  have hindent : (keyEnd first tokens c q).indent ≤ (keyEnd first tokens c q).c.column := by
    cases first <;> simp [keyEnd] <;> omega
  have hblank : (keyEnd first tokens c q).c.blankAt 1 = true := by
    simp [Cursor.blankAt, Cursor.at?, hcolon, isBlank]
  have hnext : next? (keyEnd first tokens c q) ':' = some (inLine
      (tokens ++ keyTokens first q.text) (c.skipMany (q.written.length + 1))) := by
    rw [next?_colon hcolon (Or.inr hblank)]
    cases first <;> simp [value?, keyEnd, inFlow, insertAt_length, inLine, keyTokens, emit,
      Cursor.skip_eq_skipMany, Cursor.skipMany_skipMany]
  refine run?_token hhere hindent hcolon hnext ?_
  simp [hcolon, inLine, hrest]

/-- A value is read behind the blank. -/
theorem run?_value (hrest : c.rest = ' ' :: (q.written ++ more)) (hend : more.head? ≠ some '\'') :
    run? (inLine tokens c) = run? (inLine (tokens ++ [.scalar q.text])
      (c.skipMany (q.written.length + 1))) := by
  have hhere : (inLine tokens c).skipGap.dropStale? = some (inLine tokens c.skip) := by
    rw [skipGap_blank hrest]
    · exact dropStale?_of_fresh nofun rfl
    -- the quote behind the blank ends the gap
    · rintro ch ⟨⟩
      exact beginsGap_quoteOf _
  have hquote : (inLine tokens c.skip).c.rest = q.written ++ more := by
    simp [inLine, Cursor.skip, hrest]
  have hnext : next? (inLine tokens c.skip) (quoteOf q.single) = some (inLine
      (tokens ++ [.scalar q.text]) (c.skipMany (q.written.length + 1))) := by
    rw [next?_quoteOf hquote,
      @quoted?_of_quotation _ (inLine tokens c.skip) _ _ rfl rfl hquote hend]
    simp [inLine, emit, Cursor.skip_eq_skipMany, Cursor.skipMany_skipMany, Nat.add_comm]
  refine run?_token hhere (by simp [inLine]) hquote hnext ?_
  simp only [inLine, hrest, Cursor.rest_skipMany, List.length_drop, List.length_cons,
    List.length_append]
  omega

/-! ### Lines

The four steps make a line, and the lines follow one another. Only the first line begins
outside of the block, so the induction is on the lines with `first` free. -/

/-- The tokens of a line. -/
def lineTokens (first : Bool) (l : Line) : List Token :=
  keyTokens first l.key.text ++ [.scalar l.value.text]

/-- A whole line is read. -/
theorem run?_line (hhere : s.skipGap.dropStale? = some (lineStart first tokens c))
    (hrest : c.rest = l.written ++ more) (hcolumn : c.column = 0)
    (hle : c.rest.length ≤ s.c.rest.length) (hend : more.head? ≠ some '\'') :
    run? s = run? (inLine (tokens ++ lineTokens first l)
      (c.skipMany l.written.length)) := by
  have hkey : c.rest = l.key.written ++ ':' :: ' ' :: (l.value.written ++ more) := by
    simp [hrest, Line.written]
  have hvalue : (c.skipMany (l.key.written.length + 1)).rest =
      ' ' :: (l.value.written ++ more) := by
    simp [hkey, List.drop_append]
  have hlength : l.key.written.length + 1 + (l.value.written.length + 1) = l.written.length := by
    simp only [Line.written, List.length_append, List.length_cons]
    omega
  rw [run?_key hhere hkey hcolumn hle, run?_colon l.short hkey, run?_value hvalue hend,
    Cursor.skipMany_skipMany, hlength]
  simp [lineTokens]

/-- The tokens of lines. -/
def linesTokens (first : Bool) : List Line → List Token
  | [] => [.blockEnd]
  | l :: lines => lineTokens first l ++ linesTokens false lines

/-- At the end of the text the block ends. -/
theorem run?_end_of_inLine {c' : Cursor} {keyAllowed : Bool}
    (hhere : (inLine tokens c).skipGap.dropStale? = some { inLine tokens c' with keyAllowed })
    (hrest : c'.rest = []) :
    run? (inLine tokens c) = some (tokens ++ [Token.blockEnd]).toArray := by
  -- no column is left of the block, so only the end of the text closes it
  have hcolumn : ¬ (c'.column : Int) < 0 := Int.not_lt.mpr (Int.natCast_nonneg _)
  rw [run?_end hhere hrest]
  simp [closeTo, closeBlocks, inLine, inFlow, dropKey?, hcolumn]

/-- Behind the last line the block ends. -/
theorem run?_lineEnd (h : c.rest = [] ∨ c.rest = ['\n']) :
    run? (inLine tokens c) = some (tokens ++ [Token.blockEnd]).toArray := by
  rcases h with hrest | hrest
  · refine @run?_end_of_inLine tokens c c false ?_ hrest
    rw [skipGap_of_stop (by simp [inLine, hrest])]
    exact dropStale?_of_fresh nofun rfl
  · refine @run?_end_of_inLine tokens c c.skipLine true ?_ (Cursor.rest_skipLine hrest)
    rw [skipGap_line hrest (by simp)]
    exact dropStale?_of_fresh nofun rfl

theorem beginsGap_of_lines {lines : List Line} {text : List Char} (h : Lines lines text) :
    ∀ ch ∈ text.head?, beginsGap ch = false := by
  obtain ⟨l, -, -, more, rfl⟩ := h.exists_cons
  rintro ch ⟨⟩
  exact beginsGap_quoteOf _

/-- Lines are read one after the other. -/
theorem run?_of_lines {lines : List Line} {text : List Char} (h : Lines lines text)
    (hhere : s.skipGap.dropStale? = some (lineStart first tokens c)) (hrest : c.rest = text)
    (hcolumn : c.column = 0) (hle : c.rest.length ≤ s.c.rest.length) :
    run? s = some (tokens ++ linesTokens first lines).toArray := by
  induction h generalizing s first tokens c with
  | last l =>
      -- the text ends, with nothing behind the last line
      rw [run?_line hhere (by rw [hrest, List.append_nil]) hcolumn hle (by simp),
        run?_lineEnd (Or.inl (by simp [hrest]))]
      simp [linesTokens]
  | ended l =>
      -- the text ends, with a line feed behind the last line
      rw [run?_line hhere hrest hcolumn hle (by simp), run?_lineEnd (Or.inr (by simp [hrest]))]
      simp [linesTokens]
  | @more l lines cs hlines ih =>
      rw [run?_line hhere hrest hcolumn hle (by simp)]
      have hbehind : (c.skipMany l.written.length).rest = '\n' :: cs :=
        Cursor.rest_skipMany_of_append hrest
      have hbelow : (c.skipMany l.written.length).skipLine.rest = cs := Cursor.rest_skipLine hbehind
      -- behind the line feed the scanner is at the start of a line again, inside of the block
      have hnext := @ih (inLine (tokens ++ lineTokens first l) (c.skipMany l.written.length))
        (tokens ++ lineTokens first l) (c.skipMany l.written.length).skipLine false
        (by
          rw [skipGap_line hbehind (beginsGap_of_lines hlines)]
          exact dropStale?_of_fresh nofun rfl)
        hbelow rfl (by simp [hbelow, inLine, hrest])
      rw [hnext, linesTokens, List.append_assoc]

/-- The scanner finds the tokens of the lines. -/
theorem run?_initial_of_lines {lines : List Line} {text : List Char} (h : Lines lines text) :
    run? (initial text) = some (linesTokens true lines).toArray := by
  have hhere : (initial text).skipGap.dropStale? = some (lineStart true [] (.ofText text)) := by
    rw [skipGap_of_stop (beginsGap_of_lines h)]
    rfl
  exact run?_of_lines h hhere rfl rfl (Nat.le_refl _)

end Scan

/-! ### Characters

Before a text is scanned all its characters must be printable. The characters of a text in
quotes are by definition, and so are those of its escapes. -/

theorem isPrintable_of_between {ch first last : Char} (hfirst : ' ' ≤ first) (hlast : last ≤ '~')
    (h : first ≤ ch ∧ ch ≤ last) : isPrintable ch = true := by
  have hlow : ' ' ≤ ch := Nat.le_trans hfirst h.1
  have hhigh : ch ≤ '~' := Nat.le_trans h.2 hlast
  simp [isPrintable, hlow, hhigh]

theorem isPrintable_of_hexDigit? {d : Char} (h : (Unicode.hexDigit? d).isSome = true) :
    isPrintable d = true := by
  unfold Unicode.hexDigit? at h
  split at h
  · next hd =>
    refine @isPrintable_of_between d '0' '9' (by decide) (by decide) ?_
    simpa [Char.isDigit, Char.le_def] using hd
  · split at h
    · next hd => exact isPrintable_of_between (by decide) (by decide) hd
    · split at h
      · next hd => exact isPrintable_of_between (by decide) (by decide) hd
      · cases h

theorem isPrintable_of_spells {single : Bool} {text body : List Char}
    (h : Spells single text body) :
    ∀ ch ∈ body, isPrintable ch = true := by
  induction h with
  | nil => simp
  | raw hprintable _ _ _ _ ih => simpa [hprintable] using ih
  | quote _ ih =>
      simp only [List.forall_mem_cons]
      exact ⟨by decide, by decide, ih⟩
  | @escape l c s cs hl _ ih =>
      have hprintable : isPrintable l = true := by
        unfold escapeChar? at hl
        split at hl
        all_goals first | decide | cases hl
      simp only [List.forall_mem_cons]
      exact ⟨by decide, hprintable, ih⟩
  | @code l ds s cs hl hds _ _ ih =>
      have hprintable : isPrintable l = true := by
        unfold escapeDigits? at hl
        split at hl
        all_goals first | decide | cases hl
      simp only [List.forall_mem_cons, List.forall_mem_append]
      exact ⟨by decide, hprintable, fun d hd => isPrintable_of_hexDigit? (hds d hd), ih⟩

theorem isPrintable_of_lines {lines : List Line} {text : List Char} (h : Lines lines text) :
    ∀ ch ∈ text, isPrintable ch = true := by
  have hquotation : ∀ q : Quotation, ∀ ch ∈ q.written, isPrintable ch = true := by
    intro q
    have hquote : isPrintable (quoteOf q.single) = true := by cases q.single <;> decide
    simp only [Quotation.written, List.forall_mem_cons, List.forall_mem_append]
    exact ⟨hquote, isPrintable_of_spells q.spells, hquote, nofun⟩
  have hline : ∀ l : Line, ∀ ch ∈ l.written, isPrintable ch = true := by
    intro l
    simp only [Line.written, List.forall_mem_cons, List.forall_mem_append]
    exact ⟨hquotation l.key, by decide, by decide, hquotation l.value⟩
  induction h with
  | last l => exact hline l
  | ended l => exact List.forall_mem_append.mpr ⟨hline l, List.forall_mem_singleton.mpr rfl⟩
  | more l _ ih =>
      exact List.forall_mem_append.mpr ⟨hline l, List.forall_mem_cons.mpr ⟨by decide, ih⟩⟩

/-! ### Reading the tokens

A block of lines is read entry by entry, a key and its value each taking one token with its
mark. No anchor is defined on the way, so every leaf stands for its own text. -/

/-- The key and value of a line as they are read. -/
def Line.leaves (l : Line) : Leaf × Leaf := (.text l.key.text, .text l.value.text)

theorem resolve?_leaves (l : Line) : Anchors.empty.resolve? l.leaves = some l.rule := rfl

theorem mapM_resolve?_leaves (lines : List Line) :
    (lines.map Line.leaves).mapM Anchors.empty.resolve? = some (lines.map Line.rule) := by
  induction lines with
  | nil => rfl
  | cons l lines ih => rw [List.map_cons, List.mapM_cons, ih, resolve?_leaves]; rfl

theorem blockEntries?_of_lines {handles : List (List Char)} {a : Anchors} (lines : List Line) :
    blockEntries? handles a (Scan.linesTokens false lines) =
      some (lines.map Line.leaves, a, []) := by
  induction lines with
  | nil => rw [Scan.linesTokens, blockEntries?, List.map_nil]
  | cons l lines ih =>
      -- the equation of the block reads a key, then a value; each takes the tokens of this line
      have hkey : slot? handles [.key, .value, .blockEnd] a (.scalar l.key.text ::
          .value :: .scalar l.value.text :: Scan.linesTokens false lines) =
            some (.text l.key.text, a, .value :: .scalar l.value.text ::
              Scan.linesTokens false lines) := rfl
      have hvalue : valueSlot? handles [.key, .value, .blockEnd] a (.value ::
          .scalar l.value.text :: Scan.linesTokens false lines) =
            some (.text l.value.text, a, Scan.linesTokens false lines) := rfl
      rw [show Scan.linesTokens false (l :: lines) = .key :: .scalar l.key.text :: .value ::
        .scalar l.value.text :: Scan.linesTokens false lines from rfl, blockEntries?]
      split
      · next h => rw [hkey] at h; cases h
      · next h =>
        rw [hkey] at h
        cases h
        split
        · next h => rw [hvalue] at h; cases h
        · next h =>
          rw [hvalue] at h
          cases h
          rw [ih]
          rfl

theorem document?_of_lines (l : Line) (lines : List Line) :
    document? (Scan.linesTokens true (l :: lines)) =
      some ((l :: lines).map Line.leaves, .empty, []) := by
  have hentries := @blockEntries?_of_lines standardHandles .empty (l :: lines)
  rw [show Scan.linesTokens true (l :: lines) =
    .blockMappingStart :: Scan.linesTokens false (l :: lines) from rfl]
  simp [document?, directives?, root?, takeProperties?, takeAnchor, takeTag?, hentries,
    Anchors.define]

/-- The rules are read as the lines give them. -/
theorem parse?_of_lines {lines : List Line} {text : String} (h : Lines lines text.toList) :
    parse? text = some (Record.ofList (lines.map Line.rule)) := by
  have htokens : tokens? text.toList = some (Scan.linesTokens true lines) := by
    rw [tokens?, if_pos (List.all_eq_true.mpr (isPrintable_of_lines h)),
      Scan.run?_initial_of_lines h]
    rfl
  obtain ⟨l, lines, rfl, -⟩ := h.exists_cons
  -- from the tokens on: the document is the mapping, and its leaves are the texts of the lines
  rw [parse?, htokens, Option.bind_eq_bind, Option.bind_some, document?_of_lines,
    Option.bind_eq_bind, Option.bind_some]
  show Option.bind (guard _) (fun _ =>
    (((l :: lines).map Line.leaves).mapM Anchors.empty.resolve?).bind fun pairs =>
      some (Record.ofList pairs)) = _
  rw [mapM_resolve?_leaves]
  rfl

end MailMerge.Yaml
