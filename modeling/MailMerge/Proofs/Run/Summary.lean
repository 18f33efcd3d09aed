import MailMerge.Proofs.Run.Rows

/-!
# What a run accounts for

The rows of a data file are its records behind the header, with their numbers (`dataRows`). A run
that ends without error has gone through all of them: the files written are those of the rows that
can be rendered (`outputs`), the rows passed over are the others (`refused`), and both lists are in
the order of the records (`rowsFrom_ok`). The summary of a run says the same by the numbers of the
records (`rows_summary`).
-/

namespace MailMerge.Run

/-- The records behind the header, with their numbers. -/
def dataRows (header : Bool) (row : Nat) (records : List (List String)) :
    List (List String × Nat) :=
  (records.zipIdx row).drop header.toNat

/-- The file of a numbered row, if it can be rendered. -/
def output? (c : Config) (template : String) (r : List String × Nat) : Option Output :=
  (c.render template r.1 r.2).toOption

/-- The files of the rows that can be rendered. -/
def outputs (c : Config) (template : String) (rs : List (List String × Nat)) : List Output :=
  rs.filterMap (output? c template)

/-- The numbers of the rows that cannot be rendered. -/
def refused (c : Config) (template : String) (rs : List (List String × Nat)) : List Nat :=
  (rs.filter fun r => (output? c template r).isNone).map Prod.snd

/-! ### Rows and their numbers

A number is the place of a record among all records, the header included, counted from one.
Taking the header away leaves the numbers as they are, so a row is known by its number
alone. -/

@[simp] theorem dataRows_nil (header : Bool) (row : Nat) : dataRows header row [] = [] := by
  simp [dataRows]

theorem dataRows_header (row : Nat) (fields : List String) (rest : List (List String)) :
    dataRows true row (fields :: rest) = dataRows false (row + 1) rest := by
  simp [dataRows]

theorem dataRows_cons (row : Nat) (fields : List String) (rest : List (List String)) :
    dataRows false row (fields :: rest) = (fields, row) :: dataRows false (row + 1) rest := by
  simp [dataRows]

/-- How many records stand in front of the rows. -/
def headerLength (header : Bool) (records : List (List String)) : Nat :=
  if header ∧ records ≠ [] then 1 else 0

theorem dataRows_eq_drop (header : Bool) (row : Nat) (records : List (List String)) :
    dataRows header row records = (records.zipIdx row).drop (headerLength header records) := by
  cases header <;> cases records <;> simp [dataRows, headerLength]

theorem length_dataRows (header : Bool) (row : Nat) (records : List (List String)) :
    (dataRows header row records).length = records.length - headerLength header records := by
  rw [dataRows_eq_drop, List.length_drop, List.length_zipIdx]

/-- The rows have the numbers of their records, counted from one. -/
theorem mem_dataRows {header : Bool} {records : List (List String)} {fields : List String}
    {i : Nat} :
    (fields, i) ∈ dataRows header 1 records ↔
      headerLength header records < i ∧ records[i - 1]? = some fields := by
  rw [dataRows_eq_drop, List.mem_iff_getElem?]
  simp only [List.getElem?_drop, List.getElem?_zipIdx, Option.map_eq_some_iff, Prod.mk.injEq]
  constructor
  -- the place in the list is the number less the header and one
  · rintro ⟨n, x, hx, rfl, rfl⟩
    refine ⟨by omega, ?_⟩
    rw [← hx]
    congr 1
    omega
  · rintro ⟨hi, hx⟩
    refine ⟨i - 1 - headerLength header records, fields, ?_, rfl, by omega⟩
    rw [← hx]
    congr 1
    omega

theorem pairwise_dataRows (header : Bool) (row : Nat) (records : List (List String)) :
    (dataRows header row records).Pairwise fun r s => r.2 < s.2 := by
  rw [← List.pairwise_map, dataRows, List.map_drop, List.zipIdx_map_snd]
  exact List.Pairwise.drop List.pairwise_lt_range'

/-! ### Files and rows passed over

A row is rendered or it is not, and both lists are cut out of the same list of rows, so
their lengths add up to its length and their order is its order. -/

variable {c : Config} {template : String}

theorem output?_eq_some {fields : List String} {row : Nat} {out : Output} :
    output? c template (fields, row) = some out ↔ c.render template fields row = .ok out := by
  unfold output?
  cases c.render template fields row <;> simp [Except.toOption]

theorem output?_eq_none {fields : List String} {row : Nat} :
    output? c template (fields, row) = none ↔ ∃ e, c.render template fields row = .error e := by
  unfold output?
  cases c.render template fields row <;> simp [Except.toOption]

/-- Each row gives a file or is passed over. -/
theorem length_outputs_add_length_refused (rs : List (List String × Nat)) :
    (outputs c template rs).length + (refused c template rs).length = rs.length := by
  induction rs with
  | nil => rfl
  | cons r rs ih =>
      -- one row more, which counts in exactly one of the two
      unfold outputs refused at ih ⊢
      cases h : output? c template r with
      | none =>
          simp only [List.filterMap_cons, List.filter_cons, h, Option.isNone_none, if_true,
            List.map_cons, List.length_cons]
          omega
      | some out =>
          simp only [List.filterMap_cons, List.filter_cons, h, Option.isNone_some,
            Bool.false_eq_true, if_false, List.length_cons]
          omega

theorem mem_refused {rs : List (List String × Nat)} {i : Nat} :
    i ∈ refused c template rs ↔
      ∃ fields, (fields, i) ∈ rs ∧ ∃ e, c.render template fields i = .error e := by
  simp only [refused, List.mem_map, List.mem_filter, Option.isNone_iff_eq_none]
  constructor
  · rintro ⟨⟨fields, i⟩, ⟨hmem, hnone⟩, rfl⟩
    exact ⟨fields, hmem, output?_eq_none.mp hnone⟩
  · rintro ⟨fields, hmem, he⟩
    exact ⟨(fields, i), ⟨hmem, output?_eq_none.mpr he⟩, rfl⟩

theorem pairwise_refused (header : Bool) (row : Nat) (records : List (List String)) :
    (refused c template (dataRows header row records)).Pairwise (· < ·) := by
  rw [refused, List.pairwise_map]
  exact (pairwise_dataRows header row records).filter _

/-! ### Runs that end well

The induction follows the loop: of the five things a row can come to, two end the run with
an error and are excluded, and each of the others adds to one of the lists or, for the
header, to none. -/

/-- A run without error has read all records, has written the files of the rows that can be
rendered, and has passed over the others, which it does only if it is told so. -/
theorem rowsFrom_ok {failure : Option Csv.Error} {t : File.Tree} {header : Bool} {row : Nat}
    {records : List (List String)}
    (h : (rowsFrom c template failure t header row records).error = none) :
    failure = none ∧
      (rowsFrom c template failure t header row records).written =
        (outputs c template (dataRows header row records)).map Output.target ∧
      (rowsFrom c template failure t header row records).skipped =
        refused c template (dataRows header row records) ∧
      ∀ r ∈ dataRows header row records, ∀ e, c.render template r.1 r.2 = .error e →
        c.skipInvalidRows = true := by
  induction records generalizing t header row with
  | nil =>
      have hnone : failure = none := Option.map_eq_none_iff.mp h
      simp [rowsFrom, Outcome.still, hnone, outputs, refused]
  | cons fields rest ih =>
      obtain ⟨o, hstep, hrun⟩ := exists_step c template failure t header row fields rest
      rw [hrun] at h ⊢
      cases hstep with
      | header lines =>
          -- the header is no row, and the others keep their numbers
          rw [dataRows_header]
          exact ih h
      | skipped lines hrender hskip =>
          obtain ⟨hfailure, hwritten, hskipped, -⟩ := ih h
          -- not rendered: its number goes to the front of those passed over
          have hnone : output? c template (fields, row) = none := output?_eq_none.mpr ⟨_, hrender⟩
          rw [dataRows_cons]
          refine ⟨hfailure, ?_, ?_, fun _ _ _ _ => hskip⟩
          · rw [outputs, List.filterMap_cons_none hnone]
            exact hwritten
          · rw [refused, List.filter_cons_of_pos (by simp [hnone])]
            exact congrArg (row :: ·) hskipped
      | refused hrender hskip => cases h
      | unwritable lines hrender hwrite => cases h
      | written lines hrender hwrite =>
          obtain ⟨hfailure, hwritten, hskipped, hskip⟩ := ih h
          -- rendered: its file goes to the front of those written
          have hsome := output?_eq_some.mpr hrender
          rw [dataRows_cons]
          refine ⟨hfailure, ?_, ?_, fun r hr e he => ?_⟩
          · rw [outputs, List.filterMap_cons_some hsome]
            exact congrArg (_ :: ·) hwritten
          · rw [refused, List.filter_cons_of_neg (by simp [hsome])]
            exact hskipped
          · rcases List.mem_cons.mp hr with rfl | hr
            -- the row itself was rendered, so it has no error to pass over
            · rw [hrender] at he
              cases he
            · exact hskip r hr e he

/-- **The summary of a run accounts for each row once.** If a run ends without error, the rows
passed over are those that cannot be rendered, in increasing order, and the files written are those
of the others, in the order of the records. The errors passed over concern single rows, and there
are none of them unless the run is told to skip such rows. -/
theorem rows_summary (c : Config) (template : String) (t : File.Tree) (data : List UInt8)
    (failure : Option String)
    (hok : (rows c template t (Csv.read data failure)).error = none) :
    let records := (Csv.read data failure).records
    let run := rows c template t (Csv.read data failure)
    let h := if c.ignoreHeader ∧ records ≠ [] then 1 else 0
    (Csv.read data failure).error = none ∧
      run.skipped.Pairwise (· < ·) ∧
      (∀ i, i ∈ run.skipped ↔
        ∃ fields e, h < i ∧ records[i - 1]? = some fields ∧
          c.render template fields i = .error e) ∧
      (∀ i fields e, h < i → records[i - 1]? = some fields →
        c.render template fields i = .error e → e.isRowError = true ∧ c.skipInvalidRows = true) ∧
      run.written = ((records.zipIdx 1).drop h).filterMap (fun r =>
        (c.render template r.1 r.2).toOption.map Output.target) ∧
      run.written.length + run.skipped.length = records.length - h := by
  intro records run h
  obtain ⟨hfailure, hwritten, hskipped, hskip⟩ := rowsFrom_ok hok
  -- the statement with the two lists by their names
  have hrun : run.skipped = refused c template (dataRows c.ignoreHeader 1 records) := hskipped
  have hout : run.written =
      (outputs c template (dataRows c.ignoreHeader 1 records)).map Output.target := hwritten
  refine ⟨hfailure, ?_, fun i => ?_, fun i fields e hi hfields he => ?_, ?_, ?_⟩
  · rw [hrun]
    exact pairwise_refused c.ignoreHeader 1 records
  · rw [hrun, mem_refused]
    constructor
    · rintro ⟨fields, hmem, e, he⟩
      obtain ⟨hi, hfields⟩ := mem_dataRows.mp hmem
      exact ⟨fields, e, hi, hfields, he⟩
    · rintro ⟨fields, e, hi, hfields, he⟩
      exact ⟨fields, mem_dataRows.mpr ⟨hi, hfields⟩, e, he⟩
  · exact ⟨Config.isRowError_of_render_eq_error he,
      hskip (fields, i) (mem_dataRows.mpr ⟨hi, hfields⟩) e he⟩
  · rw [hout, outputs, List.map_filterMap, dataRows_eq_drop]
    rfl
  · rw [hout, List.length_map, hrun, length_outputs_add_length_refused, length_dataRows]
    rfl

/-- A run that ignores the header and passes over the third record. -/
theorem rows_summary_of_skipping :
    ∃ c, (Config.load sampleTree (sampleOptions "out" true true)).result = .ok c ∧
      let run := rows c "Dear @name" sampleTree (Csv.read "name\nAnn\n../x\nBob".toUTF8.toList none)
      run.error = none ∧ run.skipped = [3] ∧ run.written.length + run.skipped.length = 3 := by
  have h : ((Config.load sampleTree (sampleOptions "out" true true)).result.toOption.any
      fun c => c.ignoreHeader && decide
        ((rows c "Dear @name" sampleTree
          (Csv.read "name\nAnn\n../x\nBob".toUTF8.toList none)).error = none ∧
        (rows c "Dear @name" sampleTree
          (Csv.read "name\nAnn\n../x\nBob".toUTF8.toList none)).skipped = [3])) = true := by
    decide +kernel
  -- the conditions are decided together, then the statement gives the count
  obtain ⟨c, hc, hrun⟩ := exists_of_any_toOption h
  rw [Bool.and_eq_true] at hrun
  obtain ⟨hok, hskipped⟩ := of_decide_eq_true hrun.2
  obtain ⟨-, -, -, -, -, hlength⟩ := rows_summary c "Dear @name" sampleTree _ none hok
  refine ⟨c, hc, hok, hskipped, ?_⟩
  rw [hrun.1] at hlength
  exact hlength.trans (by decide +kernel)

end MailMerge.Run
