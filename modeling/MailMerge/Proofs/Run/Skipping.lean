import MailMerge.Proofs.Csv
import MailMerge.Proofs.Run.Summary

/-!
# Passing over rows is leaving them out

A row that is passed over leaves no trace: the run over the records without such rows writes the
same files into the same tree, whether or not it is told to pass over rows (`rowsFrom_without`). The
rows behind a removed record change their numbers, which stand in no file.

A run that stops at rows with errors does the same as one that passes over them, up to the first
such row (`rowsFrom_setSkip`, `rowsFrom_of_render_eq_error`).
-/

namespace MailMerge

/-- The configuration with rows with errors passed over, or not. -/
def Config.setSkip (c : Config) (skip : Bool) : Config := { c with skipInvalidRows := skip }

@[simp] theorem Config.render_setSkip (c : Config) (skip : Bool) :
    (c.setSkip skip).render = c.render := rfl

namespace Run

/-- The records whose numbers are not in a list; the first record has the number `row`. -/
def without (skipped : List Nat) (row : Nat) (records : List (List String)) :
    List (List String) :=
  ((records.zipIdx row).filter fun r => !skipped.contains r.2).map Prod.fst

/-! ### Leaving records out

The list of rows passed over has the numbers of the records to be left out. It is taken
apart from its front, along with the records: its first number is that of the first record,
or none of it is. -/

section Without

variable {skipped : List Nat} {row : Nat} {fields : List String} {rest : List (List String)}

theorem without_cons_of_mem (h : row ∈ skipped) :
    without skipped row (fields :: rest) = without skipped (row + 1) rest := by
  simp [without, h]

theorem without_cons_of_not_mem (h : row ∉ skipped) :
    without skipped row (fields :: rest) = fields :: without skipped (row + 1) rest := by
  simp [without, h]

/-- A number in front of all records leaves none of them out. -/
theorem without_cons_of_lt {i : Nat} (h : i < row) (records : List (List String)) :
    without (i :: skipped) row records = without skipped row records := by
  unfold without
  congr 1
  refine List.filter_congr fun r hr => ?_
  have hle : row ≤ r.2 := List.le_snd_of_mem_zipIdx hr
  have hne : r.2 ≠ i := by omega
  simp [hne]

end Without

variable {c : Config} {template : String} {failure : Option Csv.Error}

/-- Rows that are passed over have the numbers of records gone through. -/
theorem le_of_mem_skipped {t : File.Tree} {header : Bool} {row i : Nat}
    {records : List (List String)}
    (h : i ∈ (rowsFrom c template failure t header row records).skipped) : row ≤ i := by
  induction records generalizing t header row with
  | nil => cases h
  | cons fields rest ih =>
      obtain ⟨o, hstep, hrun⟩ := exists_step c template failure t header row fields rest
      rw [hrun] at h
      cases hstep with
      | header lines => exact Nat.le_of_succ_le (ih h)
      | skipped lines hrender hskip =>
          rcases List.mem_cons.mp h with rfl | h
          · exact Nat.le_refl _
          · exact Nat.le_of_succ_le (ih h)
      | refused hrender hskip => cases h
      | unwritable lines hrender hwrite => cases h
      | written lines hrender hwrite => exact Nat.le_of_succ_le (ih h)

/-- What a row that can be written does to a run. -/
theorem rowsFrom_of_write_eq_ok (failure : Option Csv.Error) {t u : File.Tree} {row : Nat}
    {fields : List String} {out : Output} (hrender : c.render template fields row = .ok out)
    (hwrite : write t out.target out.content = (u, .ok ())) (rest : List (List String)) :
    ∃ note, rowsFrom c template failure t false row (fields :: rest) =
      ((rowsFrom c template failure u false (row + 1) rest).writing out.target).logging note := by
  rw [rowsFrom, if_neg Bool.false_ne_true, hrender]
  dsimp only
  rw [hwrite]
  exact ⟨_, rfl⟩

/-- **The records left out leave no trace.** A run that passes over rows writes the same files into
the same tree as a run over the other records, which passes over nothing. -/
theorem rowsFrom_without {t : File.Tree} {header : Bool} {row : Nat} {records : List (List String)}
    (hok : (rowsFrom (c.setSkip true) template failure t header row records).error = none)
    (skip : Bool) (row' : Nat) :
    let run := rowsFrom (c.setSkip true) template failure t header row records
    let again := rowsFrom (c.setSkip skip) template failure t header row'
      (without run.skipped row records)
    again.error = none ∧ again.written = run.written ∧ again.skipped = [] ∧
      again.tree = run.tree := by
  induction records generalizing t header row row' with
  | nil => exact ⟨hok, rfl, rfl, rfl⟩
  | cons fields rest ih =>
      obtain ⟨o, hstep, hrun⟩ :=
        exists_step (c.setSkip true) template failure t header row fields rest
      -- no later row is given the number of this one, so this record is in the list only if it
      -- was passed over itself
      have hlater : ∀ {u : File.Tree},
          row ∉ (rowsFrom (c.setSkip true) template failure u false (row + 1) rest).skipped :=
        fun h => Nat.not_succ_le_self row (le_of_mem_skipped h)
      rw [hrun] at hok ⊢
      dsimp only
      cases hstep with
      | header lines =>
          rw [Outcome.andThen_of_ok _ _ rfl] at hok ⊢
          rw [List.nil_append, List.nil_append, without_cons_of_not_mem hlater, rowsFrom]
          exact ih hok (row' + 1)
      -- the record is left out, and its number stands for none of those behind it
      | skipped lines hrender hskip =>
          rw [Outcome.andThen_of_ok _ _ rfl] at hok ⊢
          rw [List.nil_append, List.singleton_append, without_cons_of_mem List.mem_cons_self,
            without_cons_of_lt (Nat.lt_succ_self row)]
          exact ih hok row'
      | refused hrender hskip => cases hskip
      | unwritable lines hrender hwrite => cases hok
      | written lines hrender hwrite =>
          rw [Outcome.andThen_of_ok _ _ rfl] at hok ⊢
          rw [List.nil_append, List.singleton_append, without_cons_of_not_mem hlater]
          -- the row is written under its new number as well
          have hrender' : (c.setSkip skip).render template fields row' = .ok _ :=
            Config.render_eq_ok_of_row hrender row'
          obtain ⟨note, hagain⟩ := rowsFrom_of_write_eq_ok failure hrender' hwrite
            (without _ (row + 1) rest)
          obtain ⟨herror, hwritten, hskipped, htree⟩ := ih hok (row' + 1)
          rw [hagain]
          exact ⟨herror, congrArg (_ :: ·) hwritten, hskipped, htree⟩

/-! ### Stopping at the first row with an error

In front of the first row with an error all rows can be rendered, and there both kinds of
run are the same. At that row one of them stops. -/

/-- Where all rows can be rendered it makes no difference what is done with the others. -/
theorem rowsFrom_setSkip {t : File.Tree} {header : Bool} {row : Nat}
    {records : List (List String)}
    (h : ∀ r ∈ dataRows header row records, ∃ out, c.render template r.1 r.2 = .ok out)
    (skip skip' : Bool) :
    rowsFrom (c.setSkip skip) template failure t header row records =
      rowsFrom (c.setSkip skip') template failure t header row records := by
  induction records generalizing t header row with
  | nil => rfl
  | cons fields rest ih =>
      cases header with
      | true =>
          rw [dataRows_header] at h
          rw [rowsFrom, rowsFrom, if_pos rfl, if_pos rfl, ih h]
      | false =>
          rw [dataRows_cons, List.forall_mem_cons] at h
          obtain ⟨⟨out, hrender⟩, hrest⟩ := h
          rw [rowsFrom, rowsFrom, if_neg Bool.false_ne_true, if_neg Bool.false_ne_true,
            Config.render_setSkip, Config.render_setSkip, hrender]
          dsimp only
          rcases write t out.target out.content with ⟨u, e | done⟩
          · rfl
          · dsimp only
            rw [ih hrest]

/-- A run that stops at rows with errors stops at the first one, with the error of this row and all
that was done before it. -/
theorem rowsFrom_of_render_eq_error (failure : Option Csv.Error) {t : File.Tree} {header : Bool}
    {row : Nat} {before : List (List String)} (behind : List (List String)) {fields : List String}
    {e : Error} (hheader : header = true → before ≠ [])
    (hok : (rowsFrom (c.setSkip false) template none t header row before).error = none)
    (hrender : c.render template fields (row + before.length) = .error e) :
    rowsFrom (c.setSkip false) template failure t header row (before ++ fields :: behind) =
      { rowsFrom (c.setSkip false) template none t header row before with error := some e } := by
  have hdown : (header && before.isEmpty) = false := by
    cases header with
    | false => rfl
    | true => simpa using hheader rfl
  rw [rowsFrom_append, Outcome.andThen_of_ok _ _ hok, hdown, rowsFrom,
    if_neg Bool.false_ne_true, Config.render_setSkip, hrender]
  dsimp only
  rw [if_neg (by simp [Config.setSkip])]
  simp [Outcome.still]

/-! ### Whole runs

The list of rows passed over is increasing, so its first number is that of the first row
with an error: that is where the strict run stops. -/

theorem refused_eq_nil_iff {rs : List (List String × Nat)} :
    refused c template rs = [] ↔ ∀ r ∈ rs, ∃ out, c.render template r.1 r.2 = .ok out := by
  rw [List.eq_nil_iff_forall_not_mem]
  constructor
  · intro h r hr
    cases hrender : c.render template r.1 r.2 with
    | ok out => exact ⟨out, rfl⟩
    | error e => exact absurd (mem_refused.mpr ⟨r.1, hr, e, hrender⟩) (h r.2)
  · intro h i hi
    obtain ⟨fields, hmem, e, he⟩ := mem_refused.mp hi
    obtain ⟨out, hout⟩ := h _ hmem
    rw [hout] at he
    cases he

variable {r : Csv.Reading} {t : File.Tree}

/-- The first row passed over is the first one that cannot be rendered. -/
theorem first_skipped {k : Nat} {later : List Nat}
    (hok : (rows (c.setSkip true) template t r).error = none)
    (hk : (rows (c.setSkip true) template t r).skipped = k :: later) :
    headerLength c.ignoreHeader r.records < k ∧
      (∃ fields e, r.records[k - 1]? = some fields ∧ c.render template fields k = .error e) ∧
      ∀ i fields, headerLength c.ignoreHeader r.records < i → i < k →
        r.records[i - 1]? = some fields → ∃ out, c.render template fields i = .ok out := by
  have hrefused : (rows (c.setSkip true) template t r).skipped =
      refused c template (dataRows c.ignoreHeader 1 r.records) := (rowsFrom_ok hok).2.2.1
  rw [hk] at hrefused
  have hmem : k ∈ refused c template (dataRows c.ignoreHeader 1 r.records) :=
    hrefused ▸ List.mem_cons_self
  obtain ⟨fields, hrow, e, hrender⟩ := mem_refused.mp hmem
  obtain ⟨hbehind, hfields⟩ := mem_dataRows.mp hrow
  refine ⟨hbehind, ⟨fields, e, hfields, hrender⟩, fun i fields' hi hik hfields' => ?_⟩
  cases hrender' : c.render template fields' i with
  | ok out => exact ⟨out, rfl⟩
  | error e' =>
      -- such a row would stand in the list in front of its first member
      have hearlier : i ∈ refused c template (dataRows c.ignoreHeader 1 r.records) :=
        mem_refused.mpr ⟨fields', mem_dataRows.mpr ⟨hi, hfields'⟩, e', hrender'⟩
      have hp := @pairwise_refused c template c.ignoreHeader 1 r.records
      rw [← hrefused] at hearlier hp
      rcases List.mem_cons.mp hearlier with rfl | hlater
      · exact absurd hik (Nat.lt_irrefl _)
      · exact absurd (List.rel_of_pairwise_cons hp hlater) (Nat.lt_asymm hik)

/-- The rows of the first records are rows of all records, with the same numbers. -/
theorem mem_dataRows_take {header : Bool} {n i : Nat} {fields : List String}
    {records : List (List String)} (h : (fields, i) ∈ dataRows header 1 (records.take n)) :
    (fields, i) ∈ dataRows header 1 records ∧ i ≤ n := by
  obtain ⟨hi, htake⟩ := mem_dataRows.mp h
  have hfields : i - 1 < n ∧ records[i - 1]? = some fields := by
    rw [List.getElem?_take] at htake
    split at htake
    · exact ⟨‹_›, htake⟩
    · cases htake
  have hne : records.take n ≠ [] := by
    rintro hnil
    rw [hnil] at htake
    cases htake
  have hne' : records ≠ [] := by
    rintro rfl
    exact hne List.take_nil
  have hsame : headerLength header records = headerLength header (records.take n) := by
    simp only [headerLength, hne, hne', ne_eq, not_false_eq_true]
  exact ⟨mem_dataRows.mpr ⟨hsame ▸ hi, hfields.2⟩, by omega⟩

/-- Up to the first row that cannot be rendered, a strict run does the same as one that passes over
rows; then it fails with the error of that row. -/
theorem rows_strict_eq {k : Nat} {fields : List String} {e : Error}
    (hok : (rows (c.setSkip true) template t r).error = none)
    (hbehind : headerLength c.ignoreHeader r.records < k)
    (hfields : r.records[k - 1]? = some fields) (hrender : c.render template fields k = .error e)
    (hrows : ∀ row ∈ dataRows c.ignoreHeader 1 (r.records.take (k - 1)),
      ∃ out, c.render template row.1 row.2 = .ok out) :
    let before := rows (c.setSkip false) template t (r.take (k - 1))
    before.error = none ∧ rows (c.setSkip false) template t r = { before with error := some e } := by
  obtain ⟨hlt, hget⟩ := List.getElem?_eq_some_iff.mp hfields
  -- the records are those before the row, the row, and those behind it
  have hsplit : r.records.take (k - 1) ++ fields :: r.records.drop (k - 1 + 1) = r.records := by
    rw [← hget, List.getElem_cons_drop, List.take_append_drop]
  have hlength : (r.records.take (k - 1)).length = k - 1 := by
    rw [List.length_take]
    omega
  have hbefore : rows (c.setSkip false) template t (r.take (k - 1)) =
      rowsFrom (c.setSkip false) template none t c.ignoreHeader 1 (r.records.take (k - 1)) := by
    rw [r.take_of_le (Nat.le_of_lt hlt)]
    rfl
  have hok' : (rowsFrom (c.setSkip false) template none t c.ignoreHeader 1
      (r.records.take (k - 1))).error = none := by
    have happend := rowsFrom_append (c.setSkip true) template r.error t c.ignoreHeader 1
      (r.records.take (k - 1)) (fields :: r.records.drop (k - 1 + 1))
    have hall : (rowsFrom (c.setSkip true) template r.error t c.ignoreHeader 1 r.records).error =
      none := hok
    rw [hsplit] at happend
    rw [happend] at hall
    rw [rowsFrom_setSkip hrows false true]
    exact Outcome.error_eq_none_of_andThen _ _ hall
  -- a header is no row, so the row is not the first record of a table with one
  have hheader : c.ignoreHeader = true → r.records.take (k - 1) ≠ [] := by
    intro hc
    have hne : r.records ≠ [] := List.ne_nil_of_length_pos (Nat.zero_lt_of_lt hlt)
    rw [headerLength, if_pos ⟨hc, hne⟩] at hbehind
    rw [← List.length_pos_iff, hlength]
    omega
  have hnumber : 1 + (r.records.take (k - 1)).length = k := by
    rw [hlength]
    omega
  have hstrict := rowsFrom_of_render_eq_error r.error (r.records.drop (k - 1 + 1)) hheader hok'
    (by rw [hnumber]; exact hrender)
  rw [hsplit] at hstrict
  rw [hbefore]
  exact ⟨hok', hstrict⟩

/-- **Passing over rows is leaving them out.** If a run that passes over rows ends without error,
then the run over the records without the rows passed over, in either mode, writes the same files,
passes over nothing and leaves the same tree. The run that stops at rows with errors is the same run
if there are none. Otherwise it has written the rows before the first one, one file for each, and
then fails with the error of that row. -/
theorem rows_skipping (c : Config) (template : String) (t : File.Tree) (r : Csv.Reading)
    (hok : (rows (c.setSkip true) template t r).error = none) :
    let run := rows (c.setSkip true) template t r
    let strict := rows (c.setSkip false) template t r
    let h := if c.ignoreHeader ∧ r.records ≠ [] then 1 else 0
    (∀ skip, let again := rows (c.setSkip skip) template t ⟨without run.skipped 1 r.records, r.error⟩
      again.error = none ∧ again.written = run.written ∧ again.skipped = [] ∧
        again.tree = run.tree) ∧
      (run.skipped = [] → strict = run) ∧
      ∀ k later, run.skipped = k :: later → ∃ fields e, r.records[k - 1]? = some fields ∧
        c.render template fields k = .error e ∧
        let before := rows (c.setSkip false) template t (r.take (k - 1))
        strict = { before with error := some e } ∧ before.error = none ∧ before.skipped = [] ∧
          before.written = ((r.records.take (k - 1)).zipIdx 1 |>.drop h).filterMap (fun row =>
            (c.render template row.1 row.2).toOption.map Output.target) ∧
          ∀ i fields', h < i → i < k → r.records[i - 1]? = some fields' →
            ∃ out, c.render template fields' i = .ok out := by
  intro run strict h
  have hskipped : run.skipped = refused c template (dataRows c.ignoreHeader 1 r.records) :=
    (rowsFrom_ok hok).2.2.1
  refine ⟨fun skip => rowsFrom_without hok skip 1, fun hnone => ?_, fun k later hk => ?_⟩
  · rw [hnone] at hskipped
    exact rowsFrom_setSkip (refused_eq_nil_iff.mp hskipped.symm) false true
  · obtain ⟨hbehind, ⟨fields, e, hfields, hrender⟩, hbefore⟩ := first_skipped hok hk
    have hrows : ∀ row ∈ dataRows c.ignoreHeader 1 (r.records.take (k - 1)),
        ∃ out, c.render template row.1 row.2 = .ok out := by
      rintro ⟨fields', i⟩ hrow
      obtain ⟨hmem, hi⟩ := mem_dataRows_take hrow
      obtain ⟨hih, hfields'⟩ := mem_dataRows.mp hmem
      exact hbefore i fields' hih (by omega) hfields'
    obtain ⟨hok', hstrict⟩ := rows_strict_eq hok hbehind hfields hrender hrows
    obtain ⟨hlt, -⟩ := List.getElem?_eq_some_iff.mp hfields
    have hne : r.records ≠ [] := List.ne_nil_of_length_pos (Nat.zero_lt_of_lt hlt)
    have hdrop : h = c.ignoreHeader.toNat := by
      show headerLength c.ignoreHeader r.records = c.ignoreHeader.toNat
      cases hc : c.ignoreHeader <;> simp [headerLength, hne]
    rw [r.take_of_le (Nat.le_of_lt hlt)] at hstrict hok' ⊢
    obtain ⟨-, hwritten, hnone, -⟩ := rowsFrom_ok hok'
    refine ⟨fields, e, hfields, hrender, hstrict, hok', ?_, ?_, hbefore⟩
    · exact hnone.trans (refused_eq_nil_iff.mpr hrows)
    · rw [hdrop]
      exact hwritten.trans (List.map_filterMap ..)

/-- A run behind a header that passes over the third record, whose file would lie outside, and the
run that stops there. -/
theorem rows_skipping_of_unsafeFileName :
    ∃ c, (Config.load sampleTree (sampleOptions "out" true true)).result = .ok c ∧
      let r := Csv.read "name\nAnn\n../x\nBob".toUTF8.toList none
      let run := rows (c.setSkip true) "Dear @name" sampleTree r
      run.error = none ∧ run.skipped = [3] ∧
        (rows (c.setSkip false) "Dear @name" sampleTree
          ⟨without [3] 1 r.records, r.error⟩).tree = run.tree ∧
        (rows (c.setSkip false) "Dear @name" sampleTree r).written = ["out/Ann.txt"] := by
  have h : ((Config.load sampleTree (sampleOptions "out" true true)).result.toOption.any fun c =>
      let r := Csv.read "name\nAnn\n../x\nBob".toUTF8.toList none
      decide ((rows (c.setSkip true) "Dear @name" sampleTree r).error = none ∧
        (rows (c.setSkip true) "Dear @name" sampleTree r).skipped = [3] ∧
        (rows (c.setSkip false) "Dear @name" sampleTree (r.take 2)).written =
          ["out/Ann.txt"])) = true := by
    decide +kernel
  obtain ⟨c, hc, hrun⟩ := exists_of_any_toOption h
  obtain ⟨hok, hskipped, hbefore⟩ := of_decide_eq_true hrun
  obtain ⟨hagain, -, hstrict⟩ := rows_skipping c "Dear @name" sampleTree _ hok
  obtain ⟨fields, e, -, -, hrun, -⟩ := hstrict 3 [] hskipped
  have hsame := (hagain false).2.2.2
  rw [hskipped] at hsame
  refine ⟨c, hc, hok, hskipped, hsame, ?_⟩
  rw [hrun]
  exact hbefore

end Run
end MailMerge
