import MailMerge.Proofs.Run.Rows
import MailMerge.Proofs.Text.Bytes

/-!
# Tables as they are written

A table of rows can be written in many ways: each field with quotes or without, each row with any
of three line ends, and blank lines anywhere between rows (`Table`). Reading undoes writing,
whichever way was taken:

    Table rows text  →  read text = rows

and so a run over the written table is a run over its rows (`rows_of_table`). The only texts left
out are those that begin with a byte order mark, which is no part of the data.

The reader is followed byte by byte. `Leads` says that bytes take it from one mode and partial
record to another one within the same record, wherever in the data they stand; fields, rows and
tables are put together from such steps.
-/

namespace MailMerge.Csv

open MailMerge.Text (bytes byteOf)

/-! ### Written forms

Quotes are a choice of the writer, field by field, except where a field holds a character
that would mean something without them. Two things tie the forms together: a row is never
written as nothing, and a blank line writes no row. -/

/-- Text between quotes, in which each quote is written twice. -/
def doubled (cs : List Char) : List Char :=
  cs.flatMap fun c => if c = '"' then ['"', '"'] else [c]

/-- The characters that a field without quotes cannot hold. -/
def special : List Char := [',', '"', '\n', '\r']

/-- A field as it may be written. -/
inductive FieldForm : String → List Char → Prop
  | quoted (field : String) : FieldForm field ('"' :: (doubled field.toList ++ ['"']))
  | bare (field : String) (h : ∀ c ∈ field.toList, c ∉ special) : FieldForm field field.toList

/-- A row as it may be written: at least one field, with commas between fields. -/
inductive RowForm : List String → List Char → Prop
  | last {field : String} {w : List Char} (h : FieldForm field w) : RowForm [field] w
  | more {field : String} {fields : List String} {w ws : List Char} (h : FieldForm field w)
      (hmore : RowForm fields ws) : RowForm (field :: fields) (w ++ ',' :: ws)

/-- What ends a line. -/
inductive LineEnd : List Char → Prop
  | lineFeed : LineEnd ['\n']
  | carriageReturn : LineEnd ['\r']
  | both : LineEnd ['\r', '\n']

/-- Rows as they may be written, one on a line. A row is never written as nothing: a single empty
field needs quotes, as its line would be blank without them. The last line may lack its end. -/
inductive Table : List (List String) → List Char → Prop
  | empty : Table [] []
  | blank {rows : List (List String)} {e text : List Char} (hend : LineEnd e)
      (hmore : Table rows text) : Table rows (e ++ text)
  | row {fields : List String} {rows : List (List String)} {w e text : List Char}
      (hrow : RowForm fields w) (hne : w ≠ []) (hend : LineEnd e) (hmore : Table rows text) :
      Table (fields :: rows) (w ++ (e ++ text))
  | last {fields : List String} {w : List Char} (hrow : RowForm fields w) (hne : w ≠ []) :
      Table [fields] w

theorem RowForm.ne_nil {fields : List String} {w : List Char} (h : RowForm fields w) :
    fields ≠ [] := by
  cases h <;> exact List.cons_ne_nil _ _

/-- With all fields in quotes any row can be written. -/
theorem exists_rowForm {fields : List String} (h : fields ≠ []) :
    ∃ w, RowForm fields w ∧ w ≠ [] := by
  induction fields with
  | nil => exact absurd rfl h
  | cons field fields ih =>
      cases fields with
      | nil => exact ⟨_, .last (.quoted field), List.cons_ne_nil _ _⟩
      | cons next fields =>
          obtain ⟨w, hrow, -⟩ := ih (List.cons_ne_nil _ _)
          exact ⟨_, .more (.quoted field) hrow, List.cons_ne_nil _ _⟩

/-- A list of rows can be written unless one of them has no fields. -/
theorem exists_table_iff {rows : List (List String)} :
    (∃ text, Table rows text) ↔ ∀ fields ∈ rows, fields ≠ [] := by
  constructor
  · rintro ⟨text, h⟩
    induction h with
    | empty => exact nofun
    | blank _ _ ih => exact ih
    | row hrow _ _ _ ih => exact List.forall_mem_cons.mpr ⟨hrow.ne_nil, ih⟩
    | last hrow _ => exact List.forall_mem_singleton.mpr hrow.ne_nil
  · intro h
    induction rows with
    | nil => exact ⟨[], .empty⟩
    | cons fields rows ih =>
        obtain ⟨hne, hrows⟩ := List.forall_mem_cons.mp h
        obtain ⟨text, htext⟩ := ih hrows
        obtain ⟨w, hrow, hw⟩ := exists_rowForm hne
        exact ⟨_, .row hrow hw .lineFeed htext⟩

/-! ### Bytes that end no record

The place that the reader counts along does not matter to what is read, so it is left open
at both ends of `Leads`. That makes the steps independent of where in the data they are
made. -/

/-- The record with more bytes in its last field. -/
def Partial.append (p : Partial) (bs : List UInt8) : Partial :=
  { p with field := bs.reverse ++ p.field }

/-- Whether bytes lead from one place in a record to another one, wherever the record stands. -/
def Leads (mode : Mode) (p : Partial) (bs : List UInt8) (mode' : Mode) (p' : Partial) : Prop :=
  ∀ now, ∃ now', Reader.feed ⟨now, mode, p⟩ bs = ([], ⟨now', mode', p'⟩)

namespace Leads

variable {mode mode' mode'' : Mode} {p p' p'' : Partial} {b : UInt8} {xs ys : List UInt8}

theorem nil (mode : Mode) (p : Partial) : Leads mode p [] mode p := fun now => ⟨now, rfl⟩

theorem single (h : move mode p b = .go mode' p') : Leads mode p [b] mode' p' := by
  intro now
  refine ⟨now.after b, ?_⟩
  rw [Reader.feed, h]
  rfl

theorem trans (h : Leads mode p xs mode' p') (h' : Leads mode' p' ys mode'' p'') :
    Leads mode p (xs ++ ys) mode'' p'' := by
  intro now
  obtain ⟨now', hxs⟩ := h now
  obtain ⟨now'', hys⟩ := h' now'
  refine ⟨now'', ?_⟩
  rw [Reader.feed_append, hxs, hys]
  rfl

/-- Bytes that belong to the field in a mode are all added to it. -/
theorem stay (h : ∀ b ∈ xs, ∀ p, move mode p b = .go mode (p.byte b)) (p : Partial) :
    Leads mode p xs mode (p.append xs) := by
  induction xs generalizing p with
  | nil => exact nil mode p
  | cons b xs ih =>
      obtain ⟨hb, hxs⟩ := List.forall_mem_cons.mp h
      have hadd : (p.byte b).append xs = p.append (b :: xs) := by
        simp [Partial.append, Partial.byte]
      have hrest := ih hxs (p.byte b)
      -- the first byte, and then the others from the field it leaves behind
      rw [hadd] at hrest
      exact (single (hb p)).trans hrest

/-- A record goes on behind bytes as it does from where they lead. -/
theorem feed (h : Leads mode p xs mode' p') (now : Place) (ys : List UInt8) :
    ∃ now', Reader.feed ⟨now, mode, p⟩ (xs ++ ys) = Reader.feed ⟨now', mode', p'⟩ ys := by
  obtain ⟨now', hxs⟩ := h now
  refine ⟨now', ?_⟩
  rw [Reader.feed_append, hxs]
  rfl

end Leads

/-! ### Fields

A byte below 128 is a character of its own in UTF-8, so none of the special bytes can turn
up inside another character. That is what allows a field of any characters to be followed
byte by byte. -/

/-- Whether a field begins in a mode. -/
def Mode.BeginsField (mode : Mode) : Prop := mode = .recordStart ∨ mode = .fieldStart

/-- A byte without a special meaning belongs to a field without quotes. -/
theorem move_of_plain {mode : Mode} {b : UInt8} (h : ∀ d ∈ special, b ≠ byteOf d)
    (hmode : mode.BeginsField ∨ mode = .bare) (p : Partial) :
    move mode p b = .go .bare (p.byte b) := by
  have hcomma : b ≠ comma := h ',' (by decide)
  have hquote : b ≠ quote := h '"' (by decide)
  have hend : isLineEnd b = false := by
    have hfeed : b ≠ lineFeed := h '\n' (by decide)
    have hreturn : b ≠ carriageReturn := h '\r' (by decide)
    simp [isLineEnd, hfeed, hreturn]
  rcases hmode with (rfl | rfl) | rfl <;> simp [move, bareMove, hcomma, hquote, hend]

/-- No byte of other characters has a special meaning. -/
theorem ne_of_mem_bytes {cs : List Char} (h : ∀ c ∈ cs, c ∉ special) {b : UInt8}
    (hb : b ∈ bytes cs) : ∀ d ∈ special, b ≠ byteOf d := by
  rintro d hd rfl
  obtain ⟨c, hc, hbyte⟩ := List.mem_flatMap.mp hb
  have hlt : d.toNat < 128 := by
    have hall : (special.all fun d => d.toNat < 128) = true := by decide
    exact of_decide_eq_true (List.all_eq_true.mp hall d hd)
  obtain rfl := (Text.mem_utf8EncodeChar_iff hlt).mp hbyte
  exact h c hc hd

/-- Reading a field without quotes. An empty one leaves the reader where it is. -/
theorem leads_bare {mode : Mode} {cs : List Char} (h : ∀ c ∈ cs, c ∉ special)
    (hmode : mode.BeginsField) (p : Partial) :
    Leads mode p (bytes cs) (if cs = [] then mode else .bare) (p.append (bytes cs)) := by
  have hplain : ∀ b ∈ bytes cs, ∀ d ∈ special, b ≠ byteOf d := fun b => ne_of_mem_bytes h
  cases cs with
  | nil => exact Leads.nil mode p
  | cons c cs =>
      rw [if_neg (List.cons_ne_nil c cs)]
      -- the first byte opens the field, the others find it open
      obtain ⟨b, bs, hbytes⟩ : ∃ b bs, bytes (c :: cs) = b :: bs := by
        apply List.exists_cons_of_ne_nil
        intro hnil
        have hlength := congrArg List.length hnil
        have hpos := c.utf8Size_pos
        rw [Text.bytes_cons, List.length_append, String.length_utf8EncodeChar] at hlength
        simp only [List.length_nil] at hlength
        omega
      rw [hbytes] at hplain ⊢
      obtain ⟨hb, hbs⟩ := List.forall_mem_cons.mp hplain
      have hfirst := Leads.single (move_of_plain hb (Or.inl hmode) p)
      have hrest := Leads.stay (fun b hb => move_of_plain (hbs b hb) (Or.inr rfl)) (p.byte b)
      have hadd : (p.byte b).append bs = p.append (b :: bs) := by
        simp [Partial.append, Partial.byte]
      rw [hadd] at hrest
      exact hfirst.trans hrest

theorem bytes_quote : bytes ['"'] = [quote] := by decide

/-- Reading between quotes: two quotes write one, and all else stands for itself. -/
theorem leads_doubled (cs : List Char) (p : Partial) :
    Leads .quoted p (bytes (doubled cs)) .quoted (p.append (bytes cs)) := by
  induction cs generalizing p with
  | nil => exact Leads.nil _ p
  | cons c cs ih =>
      have hadd : (p.append (String.utf8EncodeChar c)).append (bytes cs) =
          p.append (bytes (c :: cs)) := by
        simp [Partial.append]
      have hrest := ih (p.append (String.utf8EncodeChar c))
      rw [hadd] at hrest
      have hsplit : bytes (doubled (c :: cs)) =
          bytes (if c = '"' then ['"', '"'] else [c]) ++ bytes (doubled cs) := by
        rw [← Text.bytes_append]
        rfl
      rw [hsplit]
      refine Leads.trans ?_ hrest
      -- the first of two quotes might have closed the field, the second takes that back
      by_cases hc : c = '"'
      · subst hc
        have hopen : Leads .quoted p [quote] .quoteSeen p := Leads.single rfl
        have hclose : Leads .quoteSeen p [quote] .quoted (p.byte quote) := Leads.single rfl
        exact hopen.trans hclose
      · rw [if_neg hc, Text.bytes_cons, Text.bytes_nil, List.append_nil]
        apply Leads.stay
        intro b hb p
        have hquote : b ≠ quote := by
          rintro rfl
          exact hc ((Text.mem_utf8EncodeChar_iff (by decide)).mp hb)
        simp [move, hquote]

theorem leads_quoted {mode : Mode} (hmode : mode.BeginsField) (cs : List Char) (p : Partial) :
    Leads mode p (bytes ('"' :: (doubled cs ++ ['"']))) .quoteSeen (p.append (bytes cs)) := by
  have hopen : Leads mode p [quote] .quoted p := by
    apply Leads.single
    rcases hmode with rfl | rfl <;> rfl
  have hclose : Leads .quoted (p.append (bytes cs)) [quote] .quoteSeen (p.append (bytes cs)) :=
    Leads.single rfl
  have hall := hopen.trans ((leads_doubled cs p).trans hclose)
  rw [← bytes_quote, ← Text.bytes_append, ← Text.bytes_append] at hall
  exact hall

/-- Reading a field, however it is written. Where it leads a field may end; only nothing written at
the start of a record leads to the start of a record. -/
theorem leads_field {field : String} {w : List Char} (h : FieldForm field w) {mode : Mode}
    (hmode : mode.BeginsField) (p : Partial) :
    ∃ mode', Leads mode p (bytes w) mode' (p.append (bytes field.toList)) ∧ mode' ≠ .quoted ∧
      (mode' = .recordStart → mode = .recordStart ∧ w = []) := by
  cases h with
  | quoted => exact ⟨.quoteSeen, leads_quoted hmode _ p, nofun, nofun⟩
  | bare h =>
      refine ⟨_, leads_bare h hmode p, ?_, ?_⟩
      · split
        · rcases hmode with rfl | rfl <;> exact nofun
        · exact nofun
      · split
        · next hnil => exact fun hstart => ⟨hstart, hnil⟩
        · exact nofun

/-! ### Rows

The induction goes from field to field, over the comma. Where the row ends is not seen by
it; the last field is left as it is and ended by whatever follows. -/

/-- The bytes of the fields of a row. -/
def fieldBytes (fields : List String) : List (List UInt8) := fields.map fun f => bytes f.toList

theorem move_comma {mode : Mode} (h : mode ≠ .quoted) (p : Partial) :
    move mode p comma = .go .fieldStart p.endField := by
  cases mode with
  | quoted => exact absurd rfl h
  | recordStart => rfl
  | fieldStart => rfl
  | bare => rfl
  | quoteSeen => rfl

theorem Partial.endField_append (place : Place) (done : List (List UInt8)) (bs : List UInt8) :
    (Partial.append ⟨place, done, []⟩ bs).endField = ⟨place, bs :: done, []⟩ := by
  simp [Partial.append, Partial.endField]

/-- Reading a row up to its end, where all of its fields but the last one are complete. -/
theorem leads_row {fields : List String} {w : List Char} (h : RowForm fields w) {mode : Mode}
    (hmode : mode.BeginsField) (place : Place) (done : List (List UInt8)) :
    ∃ mode' p', Leads mode ⟨place, done, []⟩ (bytes w) mode' p' ∧
      p'.endField = ⟨place, (fieldBytes fields).reverse ++ done, []⟩ ∧
      mode' ≠ .quoted ∧ (mode' = .recordStart → mode = .recordStart ∧ w = []) := by
  induction h generalizing mode done with
  | last h =>
      obtain ⟨mode', hlead, hquoted, hstart⟩ := leads_field h hmode ⟨place, done, []⟩
      exact ⟨mode', _, hlead, Partial.endField_append place done _, hquoted, hstart⟩
  | @more field fields w ws h _ ih =>
      obtain ⟨mode₁, hfirst, hquoted₁, -⟩ := leads_field h hmode ⟨place, done, []⟩
      have hcomma := move_comma hquoted₁ (Partial.append ⟨place, done, []⟩ (bytes field.toList))
      rw [Partial.endField_append] at hcomma
      obtain ⟨mode', p', hrest, hfields, hquoted, hstart⟩ := ih (Or.inr rfl) (_ :: done)
      -- behind a comma a field begins, and not a record
      refine ⟨mode', p', ?_, ?_, hquoted, fun he => nomatch (hstart he).1⟩
      · have hall := hfirst.trans ((Leads.single hcomma).trans hrest)
        rw [Text.bytes_append, Text.bytes_cons]
        exact hall
      · rw [hfields]
        simp [fieldBytes]

/-! ### Tables

A line end stands behind a record or in front of one. Behind a record its first byte ends
the record, and what is left of it stands in front of the next record, where line ends mean
nothing; so the three line ends are one. -/

/-- A line ends with a byte that ends a record; what may follow it means nothing there. -/
theorem LineEnd.exists_cons {e : List Char} (h : LineEnd e) :
    ∃ b bs, bytes e = b :: bs ∧ isLineEnd b = true ∧ ∀ x ∈ bs, isLineEnd x = true := by
  cases h with
  | lineFeed => exact ⟨Csv.lineFeed, [], by decide, by decide, nofun⟩
  | carriageReturn => exact ⟨Csv.carriageReturn, [], by decide, by decide, nofun⟩
  | both =>
      have hrest : ∀ x ∈ [Csv.lineFeed], isLineEnd x = true :=
        List.forall_mem_singleton.mpr (by decide)
      exact ⟨Csv.carriageReturn, [Csv.lineFeed], by decide, by decide, hrest⟩

/-- Line ends in front of a record mean nothing. -/
theorem leads_lineEnds {bs : List UInt8} (h : ∀ b ∈ bs, isLineEnd b = true) (p : Partial) :
    Leads .recordStart p bs .recordStart p := by
  induction bs with
  | nil => exact Leads.nil _ p
  | cons b bs ih =>
      obtain ⟨hb, hbs⟩ := List.forall_mem_cons.mp h
      have hfirst : Leads .recordStart p [b] .recordStart p := by
        apply Leads.single
        rw [move, if_pos hb]
      exact hfirst.trans (ih hbs)

/-- Behind the start of a record and outside quotes a line end ends the record. -/
theorem move_lineEnd {mode : Mode} (hquoted : mode ≠ .quoted) (hstart : mode ≠ .recordStart)
    {b : UInt8} (hb : isLineEnd b = true) (p : Partial) : move mode p b = .finished p.finish := by
  have hcomma : b ≠ comma := by
    rintro rfl
    exact absurd hb (by decide)
  have hquote : b ≠ quote := by
    rintro rfl
    exact absurd hb (by decide)
  -- each mode but the two that are left out ends a record here
  cases mode with
  | quoted => exact absurd rfl hquoted
  | recordStart => exact absurd rfl hstart
  | fieldStart => simp [move, bareMove, hcomma, hquote, hb]
  | bare => simp [move, bareMove, hcomma, hb]
  | quoteSeen => simp [move, bareMove, hcomma, hquote, hb]

/-- Behind a byte that ends a record the next one starts. -/
theorem feed_finished {mode : Mode} {p : Partial} {b : UInt8} {r : Raw}
    (h : move mode p b = .finished r) (now : Place) (rest : List UInt8) :
    ∃ place, Reader.feed ⟨now, mode, p⟩ (b :: rest) =
      (r :: (Reader.feed (.start place) rest).1, (Reader.feed (.start place) rest).2) := by
  refine ⟨{ now.after b with record := (now.after b).record + 1 }, ?_⟩
  rw [Reader.feed, h]

/-- The record of a row. -/
theorem fields_finish {p : Partial} {place : Place} {fields : List String}
    (h : p.endField = ⟨place, (fieldBytes fields).reverse ++ [], []⟩) :
    p.finish.fields = fieldBytes fields := by
  simp [Partial.finish, h]

/-- The records that a written table is read as have the fields of its rows. -/
theorem feed_of_table {rows : List (List String)} {text : List Char} (h : Table rows text)
    (now place : Place) :
    let r := Reader.feed ⟨now, .recordStart, .new place⟩ (bytes text)
    (r.1 ++ r.2.finish).map Raw.fields = rows.map fieldBytes := by
  induction h generalizing now place with
  | empty => rfl
  | blank hend _ ih =>
      -- nothing has begun, so the whole line end is passed over
      obtain ⟨b, bs, hbytes, hb, hbs⟩ := hend.exists_cons
      have hlead := leads_lineEnds (List.forall_mem_cons.mpr ⟨hb, hbs⟩) (.new place)
      obtain ⟨now', hfeed⟩ := hlead.feed now (bytes _)
      rw [Text.bytes_append, hbytes, hfeed]
      exact ih now' place
  | row hrow hne hend _ ih =>
      obtain ⟨b, bs, hbytes, hb, hbs⟩ := hend.exists_cons
      obtain ⟨mode, p, hlead, hfields, hquoted, hstart⟩ := leads_row hrow (Or.inl rfl) place []
      have hbegun : mode ≠ .recordStart := fun he => hne (hstart he).2
      -- the row, then the end of its line, then the rest of the line end, then the other rows
      obtain ⟨now₁, hfeed₁⟩ := hlead.feed now (b :: (bs ++ bytes _))
      have hmove := move_lineEnd hquoted hbegun hb p
      obtain ⟨place₂, hfeed₂⟩ := feed_finished hmove now₁ (bs ++ bytes _)
      obtain ⟨now₃, hfeed₃⟩ := (leads_lineEnds hbs (.new place₂)).feed place₂ (bytes _)
      rw [Text.bytes_append, Text.bytes_append, hbytes, List.cons_append, Partial.new, hfeed₁,
        hfeed₂, Reader.start, hfeed₃]
      have hmore := ih now₃ place₂
      dsimp only at hmore ⊢
      rw [List.cons_append, List.map_cons, List.map_cons, hmore, fields_finish hfields]
  | last hrow hne =>
      -- the last row may lack its end, and the end of the data takes its place
      obtain ⟨mode, p, hlead, hfields, -, hstart⟩ := leads_row hrow (Or.inl rfl) place []
      have hbegun : mode ≠ .recordStart := fun he => hne (hstart he).2
      obtain ⟨now', hfeed⟩ := hlead now
      rw [Partial.new, hfeed]
      simp [Reader.finish, hbegun, fields_finish hfields]

/-! ### Reading -/

/-- Fields that are the bytes of texts are read as these texts. -/
theorem decodeFields_fieldBytes (place : Place) (index : Nat) (fields : List String) :
    decodeFields place index (fieldBytes fields) = .ok fields := by
  induction fields generalizing index with
  | nil => rfl
  | cons f fields ih =>
      have htext : text? (bytes f.toList) = some f := by
        rw [text?, Text.fromUTF8?_bytes, String.ofList_toList]
      have hrest := ih (index + 1)
      rw [fieldBytes] at hrest ⊢
      rw [List.map_cons, decodeFields, htext]
      dsimp only
      rw [hrest]
      rfl

theorem decode_fieldBytes {raw : List Raw} {rows : List (List String)}
    (h : raw.map Raw.fields = rows.map fieldBytes) : decode none raw = ⟨rows, none⟩ := by
  induction raw generalizing rows with
  | nil =>
      obtain rfl := List.map_eq_nil_iff.mp h.symm
      rfl
  | cons r raw ih =>
      cases rows with
      | nil => cases h
      | cons fields rows =>
          obtain ⟨hr, hraw⟩ := List.cons.inj h
          rw [decode, hr, decodeFields_fieldBytes]
          dsimp only
          rw [ih hraw]

/-- The mark in front of data is a character of its own. -/
theorem markLength_bytes {text : List Char} (h : text.head? ≠ some '\uFEFF') :
    markLength (bytes text) = 0 := by
  -- bytes can be told apart into characters, and the first one is not the mark
  have hmark : byteOrderMark = String.utf8EncodeChar '\uFEFF' := by decide
  rw [markLength, if_neg]
  intro hpre
  obtain ⟨rest, hrest⟩ := List.isPrefixOf_iff_prefix.mp hpre
  cases text with
  | nil => cases hrest
  | cons c cs =>
      rw [hmark, Text.bytes_cons] at hrest
      exact h (congrArg some (Text.eq_of_bytes_append hrest).symm)

/-- **Reading undoes writing.** -/
theorem read_of_table {rows : List (List String)} {text : String} (h : Table rows text.toList)
    (hmark : text.toList.head? ≠ some '\uFEFF') :
    read text.toUTF8.toList none = ⟨rows, none⟩ := by
  apply decode_fieldBytes
  rw [Text.toList_toUTF8, rawRecords, markLength_bytes hmark]
  exact feed_of_table h ⟨0, 1, 0⟩ ⟨0, 1, 0⟩

end MailMerge.Csv

namespace MailMerge.Run

/-- **A run over a written table is a run over its rows**, in their order and numbered from one,
whichever form the fields, the line ends and the blank lines have. -/
theorem rows_of_table (c : Config) (template : String) (t : File.Tree) {table : List (List String)}
    {text : String} (h : Csv.Table table text.toList)
    (hmark : text.toList.head? ≠ some '\uFEFF') :
    Csv.read text.toUTF8.toList none = ⟨table, none⟩ ∧
      rows c template t (Csv.read text.toUTF8.toList none) =
        rowsFrom c template none t c.ignoreHeader 1 table := by
  have hread := Csv.read_of_table h hmark
  refine ⟨hread, ?_⟩
  rw [hread]
  rfl

/-- A run over rows of three lengths with blank lines between them, in both forms of fields and all
three line ends. -/
theorem rows_of_table_of_all_forms :
    let text := "\r\n\"a,b\",\"say \"\"hi\"\"\"\r\"\"\n\n\"é\n\",,x"
    let table := [["a,b", "say \"hi\""], [""], ["é\n", "", "x"]]
    ∃ c, (Config.load sampleTree (sampleOptions "out" false false)).result = .ok c ∧
      Csv.read text.toUTF8.toList none = ⟨table, none⟩ ∧
      (rows c "Dear @name" sampleTree (Csv.read text.toUTF8.toList none)).written =
        ["out/a,b.txt", "out/.txt", "out/é\n.txt"] := by
  intro text table
  have h : ((Config.load sampleTree (sampleOptions "out" false false)).result.toOption.any fun c =>
      decide ((rowsFrom c "Dear @name" none sampleTree c.ignoreHeader 1 table).written =
        ["out/a,b.txt", "out/.txt", "out/é\n.txt"])) = true := by
    decide +kernel
  obtain ⟨c, hc, hwritten⟩ := exists_of_any_toOption h
  have htable : Csv.Table table text.toList := by
    have hx : ∀ c ∈ "x".toList, c ∉ Csv.special := by
      have hlist : "x".toList = ['x'] := by decide
      rw [hlist, List.forall_mem_singleton]
      decide
    have hforms := Csv.Table.blank .both <|
      .row (.more (.quoted "a,b") (.last (.quoted "say \"hi\""))) nofun .carriageReturn <|
      .row (.last (.quoted "")) nofun .lineFeed <|
      .blank .lineFeed <|
      .last (.more (.quoted "é\n") (.more (.bare "" nofun) (.last (.bare "x" hx)))) nofun
    refine Eq.mp (congrArg (Csv.Table table) ?_) hforms
    decide
  obtain ⟨hread, hrun⟩ := rows_of_table c "Dear @name" sampleTree htable (by decide)
  refine ⟨c, hc, hread, ?_⟩
  rw [hrun]
  exact of_decide_eq_true hwritten

end MailMerge.Run
