import MailMerge.Proofs.Csv
import MailMerge.Proofs.Run.Skipping

/-!
# Ignoring the header

A run that ignores the header is the run over the records behind it, with every row number one
higher (`rows_setHeader`). Whatever the header holds, nothing comes of it.

The two runs go through the same rows under other numbers. What one row does in both is compared
first (`moved_row`), then all rows (`moved_rowsFrom`). Where both cannot read the same record their
errors tell different places of it, since the header does not lie in front of both.
-/

namespace MailMerge

/-- The configuration with the header ignored, or not. -/
def Config.setHeader (c : Config) (header : Bool) : Config := { c with ignoreHeader := header }

/-! ### Reading the same fields elsewhere

The header takes a place in front of the other records: they begin at other bytes, lines and
numbers. That is told only by the error of a record that is no text. -/

namespace Csv

/-- The same error with the record at another place, if it is about a record. -/
def Error.atPlace (place : Place) : Error → Error
  | .notText _ field validUpTo => .notText place field validUpTo
  | .source text => .source text

/-- The place of a record only stands in its errors. -/
theorem decodeFields_atPlace (place place' : Place) (index : Nat) (fields : List (List UInt8)) :
    decodeFields place' index fields =
      (decodeFields place index fields).mapError (Error.atPlace place') := by
  induction fields generalizing index with
  | nil => rfl
  | cons field rest ih =>
      rw [decodeFields, decodeFields]
      cases text? field with
      | none => rfl
      | some s =>
          dsimp only
          rw [ih (index + 1)]
          cases decodeFields place (index + 1) rest <;> rfl

/-- Raw records with the same fields are read alike. -/
theorem decode_atPlace (failure : Option String) {raw raw' : List Raw}
    (h : raw'.map Raw.fields = raw.map Raw.fields) :
    ∃ place, decode (failure.map .source) raw' =
      ⟨(decode (failure.map .source) raw).records,
        (decode (failure.map .source) raw).error.map (Error.atPlace place)⟩ := by
  induction raw generalizing raw' with
  | nil =>
      obtain rfl := List.map_eq_nil_iff.mp h
      refine ⟨⟨0, 1, 0⟩, ?_⟩
      cases failure <;> rfl
  | cons r raw ih =>
      cases raw' with
      | nil => cases h
      | cons r' raw' =>
          obtain ⟨hfields, hrest⟩ := List.cons.inj h
          obtain ⟨place, hmore⟩ := ih hrest
          rw [decode, decode, hfields, decodeFields_atPlace r.place r'.place]
          cases decodeFields r.place 0 r.fields with
          | error e => exact ⟨r'.place, rfl⟩
          | ok fields =>
              refine ⟨place, ?_⟩
              dsimp only [Except.mapError]
              rw [hmore]

/-- A record of texts in front of others is the first one read. -/
theorem decode_cons_of_text {h : Raw} (htext : ∀ field ∈ h.fields, (text? field).isSome = true)
    (failure : Option Error) (raw : List Raw) :
    ∃ fields, decode failure (h :: raw) =
      ⟨fields :: (decode failure raw).records, (decode failure raw).error⟩ := by
  cases hfields : decodeFields h.place 0 h.fields with
  | ok fields => exact ⟨fields, by rw [decode, hfields]⟩
  | error e =>
      obtain ⟨field, hmem, hnone⟩ := decodeFields_eq_error_iff.mp ⟨e, hfields⟩
      have hsome := htext field hmem
      rw [hnone] at hsome
      cases hsome

end Csv

/-! ### The next row number

The relation of the two runs, record by record: they are in the same tree, and have written
and passed over the same records. Errors that are about a row tell its number, those about a
write do not. -/

/-- An error of a run, and the same error with the number of its row one higher. Rows are numbered
from one. A record that cannot be read may stand at another place. -/
inductive Error.Moved : Error → Error → Prop
  | missingColumn (variableName : String) {row : Nat} (hrow : 0 < row) :
      Moved (.missingColumn variableName row) (.missingColumn variableName (row + 1))
  | unsafeFileName (name : String) {row : Nat} (hrow : 0 < row) :
      Moved (.unsafeFileName name row) (.unsafeFileName name (row + 1))
  | writeFailed (path : String) (fault : File.Fault) :
      Moved (.writeFailed path fault) (.writeFailed path fault)
  | data (e : Csv.Error) (place : Csv.Place) : Moved (.data e) (.data (e.atPlace place))

/-- An outcome, and the same outcome with each row number one higher. -/
structure Outcome.Moved (o o' : Outcome) : Prop where
  written : o'.written = o.written
  tree : o'.tree = o.tree
  skipped : o'.skipped = o.skipped.map (· + 1)
  error : Option.Rel Error.Moved o.error o'.error

namespace Outcome.Moved

theorem still {e e' : Option Error} (h : Option.Rel Error.Moved e e') (t : File.Tree) :
    Moved (.still t e) (.still t e') := ⟨rfl, rfl, rfl, h⟩

theorem andThen {o o' : Outcome} {next next' : File.Tree → Outcome} (h : Moved o o')
    (hnext : ∀ t, Moved (next t) (next' t)) : Moved (o.andThen next) (o'.andThen next') := by
  -- one run goes on exactly if the other does, since they have an error both or neither
  have herror := h.error
  cases he : o.error with
  | some e =>
      cases he' : o'.error with
      | none => rw [he, he'] at herror; cases herror
      | some e' => rwa [andThen_of_error o next he, andThen_of_error o' next' he']
  | none =>
      cases he' : o'.error with
      | some e' => rw [he, he'] at herror; cases herror
      | none =>
          have hthen := hnext o.tree
          rw [andThen_of_ok o next he, andThen_of_ok o' next' he', h.tree]
          refine ⟨?_, hthen.tree, ?_, hthen.error⟩
          · rw [h.written, hthen.written]
          · rw [h.skipped, hthen.skipped, List.map_append]

theorem logging {o o' : Outcome} (h : Moved o o') (lines : List Log.Line) :
    Moved o (o'.logging lines) := ⟨h.written, h.tree, h.skipped, h.error⟩

/-- Outcomes with the same files print the same. -/
theorem printed {o o' : Outcome} (h : Moved o o') : o'.printed = o.printed := by
  rw [Outcome.printed, Outcome.printed, h.written]

end Outcome.Moved

namespace Run

variable {c : Config} {template : String}

/-- An error of a row is an error under the next number as well. -/
theorem moved_render {fields : List String} {row : Nat} {e : Error} (hrow : 0 < row)
    (h : c.render template fields row = .error e) :
    ∃ e', c.render template fields (row + 1) = .error e' ∧ e'.isRowError = true ∧
      Error.Moved e e' := by
  rw [Config.render_atRow c template fields row (row + 1), h]
  refine ⟨_, rfl, ?_⟩
  rcases Config.render_eq_error h with ⟨v, rfl⟩ | ⟨name, rfl⟩
  · exact ⟨rfl, .missingColumn v hrow⟩
  · exact ⟨rfl, .unsafeFileName name hrow⟩

/-- A row does under the next number what it does under its own. -/
theorem moved_row (t : File.Tree) {row : Nat} (hrow : 0 < row) (fields : List String) :
    Outcome.Moved (rowsFrom c template none t false row [fields])
      (rowsFrom c template none t false (row + 1) [fields]) := by
  cases hrender : c.render template fields row with
  | error e =>
      obtain ⟨e', hrender', hrowError, hmoved⟩ := moved_render hrow hrender
      -- the error is one of the row under both numbers, so both runs pass over it or neither does
      have hrowError' := Config.isRowError_of_render_eq_error hrender
      simp only [rowsFrom, Bool.false_eq_true, if_false, hrender, hrender', hrowError, hrowError',
        true_and]
      split
      · exact ⟨rfl, rfl, rfl, .none⟩
      · exact .still (.some hmoved) t
  | ok out =>
      have hrender' := Config.render_eq_ok_of_row hrender (row + 1)
      simp only [rowsFrom, Bool.false_eq_true, if_false, hrender, hrender']
      rcases hwrite : write t out.target out.content with ⟨u, e | done⟩
      · obtain ⟨⟨fault, rfl⟩, -⟩ := write_eq_error hwrite
        exact ⟨rfl, rfl, rfl, .some (.writeFailed _ fault)⟩
      · exact ⟨rfl, rfl, rfl, .none⟩

/-- So do all rows. -/
theorem moved_rowsFrom (failure : Option Csv.Error) (place : Csv.Place) (t : File.Tree) {row : Nat}
    (hrow : 0 < row) (records : List (List String)) :
    Outcome.Moved (rowsFrom c template failure t false row records)
      (rowsFrom c template (failure.map (Csv.Error.atPlace place)) t false (row + 1) records) := by
  induction records generalizing t row with
  | nil =>
      cases failure with
      | none => exact .still .none t
      | some e => exact .still (.some (.data e place)) t
  -- one row, and then the others under the next number
  | cons fields rest ih =>
      have hsplit := fun failure row => rowsFrom_append c template failure t false row [fields] rest
      simp only [List.singleton_append, Bool.false_and, List.length_singleton] at hsplit
      rw [hsplit, hsplit]
      exact (moved_row t hrow fields).andThen fun u => ih u (Nat.succ_pos row)

/-- Going through rows does not depend on whether a header is ignored at the start of a run. -/
theorem rowsFrom_setHeader (ignore : Bool) (failure : Option Csv.Error) (t : File.Tree)
    (header : Bool) (row : Nat) (records : List (List String)) :
    rowsFrom (c.setHeader ignore) template failure t header row records =
      rowsFrom c template failure t header row records := by
  have hrender : (c.setHeader ignore).render = c.render := rfl
  have hskip : (c.setHeader ignore).skipInvalidRows = c.skipInvalidRows := rfl
  induction records generalizing t header row with
  | nil => rfl
  | cons fields rest ih => simp only [rowsFrom, hrender, hskip, ih]

/-- **Ignoring the header is leaving it out.** Data whose first record is text gives, with the
header ignored, what the records behind it give if none is a header, wherever else they are read:
the same files, the same lines printed and the same tree, while each row number is one higher. The
first record is not passed over either. -/
theorem rows_setHeader (c : Config) (template : String) (t : File.Tree) {data : List UInt8}
    {failure : Option String} {h : Csv.Raw} {raw raw' : List Csv.Raw}
    (hdata : Csv.rawRecords failure.isSome data = h :: raw)
    (htext : ∀ field ∈ h.fields, (Csv.text? field).isSome = true)
    (hrest : raw'.map Csv.Raw.fields = raw.map Csv.Raw.fields) :
    let run := rows (c.setHeader true) template t (Csv.read data failure)
    let bare := rows (c.setHeader false) template t (Csv.decode (failure.map .source) raw')
    run.written = bare.written ∧ run.printed = bare.printed ∧ run.tree = bare.tree ∧
      run.skipped = bare.skipped.map (· + 1) ∧ (∀ i ∈ run.skipped, 1 < i) ∧
      Option.Rel Error.Moved bare.error run.error := by
  intro run bare
  obtain ⟨header, hread⟩ := Csv.decode_cons_of_text htext (failure.map .source) raw
  obtain ⟨place, hplaced⟩ := Csv.decode_atPlace failure hrest.symm
  let again := Csv.decode (failure.map .source) raw'
  have hbare : bare = rowsFrom c template again.error t false 1 again.records :=
    rowsFrom_setHeader false again.error t false 1 again.records
  -- the header only leaves a line in the log and takes the first number
  have hrun : run = (rowsFrom c template (again.error.map (Csv.Error.atPlace place)) t false 2
      again.records).logging [⟨.debug, .processor, "Ignoring header row " ++ toString 1⟩] := by
    show rows _ _ _ (Csv.decode _ _) = _
    rw [hdata, hread, hplaced, rows, rowsFrom_setHeader]
    rfl
  have hmoved : Outcome.Moved bare run := by
    rw [hrun, hbare]
    exact (moved_rowsFrom _ place t Nat.one_pos _).logging _
  refine ⟨hmoved.written, hmoved.printed, hmoved.tree, hmoved.skipped, ?_, hmoved.error⟩
  intro i hi
  rw [hmoved.skipped] at hi
  obtain ⟨j, hj, rfl⟩ := List.mem_map.mp hi
  exact Nat.succ_lt_succ (le_of_mem_skipped hj)

/-- A run behind a header that is a name outside, and the run over the rows alone. Both pass over
the same row, the third record of one and the second of the other. -/
theorem rows_setHeader_of_unsafeFileName :
    ∃ c, (Config.load sampleTree (sampleOptions "out" true true)).result = .ok c ∧
      let run := rows (c.setHeader true) "Dear @name" sampleTree
        (Csv.read "../name\nAnn\n../x\nBob".toUTF8.toList none)
      let bare := rows (c.setHeader false) "Dear @name" sampleTree
        (Csv.read "Ann\n../x\nBob".toUTF8.toList none)
      bare.skipped = [2] ∧ run.skipped = [3] ∧ run.tree = bare.tree ∧
        run.written = ["out/Ann.txt", "out/Bob.txt"] := by
  have h : ((Config.load sampleTree (sampleOptions "out" true true)).result.toOption.any fun c =>
      let bare := rows (c.setHeader false) "Dear @name" sampleTree
        (Csv.read "Ann\n../x\nBob".toUTF8.toList none)
      decide (bare.skipped = [2] ∧ bare.written = ["out/Ann.txt", "out/Bob.txt"])) = true := by
    decide +kernel
  obtain ⟨c, hc, hrun⟩ := exists_of_any_toOption h
  obtain ⟨hskipped, hwritten⟩ := of_decide_eq_true hrun
  let raw : List Csv.Raw := [⟨⟨1, 2, 8⟩, ["Ann".toUTF8.toList]⟩,
    ⟨⟨2, 3, 12⟩, ["../x".toUTF8.toList]⟩, ⟨⟨3, 4, 17⟩, ["Bob".toUTF8.toList]⟩]
  have hdata : Csv.rawRecords false "../name\nAnn\n../x\nBob".toUTF8.toList =
      ⟨⟨0, 1, 0⟩, ["../name".toUTF8.toList]⟩ :: raw := by decide +kernel
  obtain ⟨hfiles, -, htree, hnumbers, -⟩ := @rows_setHeader c "Dear @name" sampleTree _ none _ _
    (Csv.rawRecords false "Ann\n../x\nBob".toUTF8.toList) hdata
    (by decide +kernel) (by decide +kernel)
  refine ⟨c, hc, hskipped, hnumbers.trans ?_, htree, hfiles.trans hwritten⟩
  exact congrArg (List.map (· + 1)) hskipped

end Run
end MailMerge
