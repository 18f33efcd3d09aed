import MailMerge.Proofs.Csv
import MailMerge.Proofs.Run.Content
import MailMerge.Run.Blocks

/-!
# Reading in blocks

A run that writes no file over its data file goes through the rows that the data file holds
(`file_eq_rows`): how its content is cut into blocks does not matter, nor that rows are written while
it is read.

The blocks that are left are compared with the content that is left (`Progress.left`). A record that
goes across the end of a block is in the reader, which reads on where it stopped.
-/

namespace MailMerge.Run

open File File.Tree

variable {c : Config} {template : String} {place : Location} {mark : Nat} {t u : Tree}
  {p : Progress}

/-! ### What is left to read

A reader that is given data in two parts reads what it reads of the data at once. So what is
left of the data is what the next block gives, and then what is left behind that. -/

/-- The records that a run is still to read of some data. -/
def Progress.left (p : Progress) (mark : Nat) (data : List UInt8) : List Csv.Raw :=
  (p.reader.feed ((data.drop p.offset).drop (mark - p.offset))).1 ++
    (p.reader.feed ((data.drop p.offset).drop (mark - p.offset))).2.finish

/-- A block is the start of what is left of a file. -/
theorem exists_blockAt {data : List UInt8} (hlimit : data.length ≤ fileLimit)
    (hdata : (dataAt t place).data.toList = data) (offset : Nat) :
    ∃ n, blockAt t place offset = (data.drop offset).take (n + 1) := by
  rw [blockAt, Array.toList_extract, List.extract_eq_take_drop, hdata]
  rcases Nat.lt_or_ge offset data.length with hlt | hge
  · refine ⟨min (offset + blockSize) fileLimit - offset - 1, ?_⟩
    congr 1
    unfold blockSize
    omega
  · exact ⟨0, by rw [List.drop_of_length_le hge, List.take_nil, List.take_nil]⟩

/-- Behind the end of the data there is at most the record that the end completes. -/
theorem Progress.left_of_drop_eq_nil {data : List UInt8} (h : data.drop p.offset = []) :
    p.left mark data = p.reader.finish := by
  rw [left, h, List.drop_nil]
  rfl

theorem Progress.left_behind_nil {data : List UInt8} (h : data.drop p.offset = []) :
    (p.behind mark []).left mark data = [] := by
  rw [left_of_drop_eq_nil (by simpa [behind] using h)]
  rfl

/-- What is left is what a block gives and then what is left behind the block. -/
theorem Progress.left_eq_append {data block : List UInt8} {n : Nat}
    (hblock : block = (data.drop p.offset).take n) (hne : block ≠ []) :
    p.left mark data = (p.feed mark block).1 ++ (p.behind mark block).left mark data := by
  have hdata : data.drop p.offset = block ++ data.drop (p.offset + block.length) := by
    rw [← List.drop_drop, hblock, List.length_take]
    -- the block is as long as was asked for, or all that is left
    rcases Nat.le_total n (data.drop p.offset).length with hle | hle
    · rw [Nat.min_eq_left hle, List.take_append_drop]
    · rw [Nat.min_eq_right hle, List.take_of_length_le hle, List.drop_length, List.append_nil]
  have hfeed : p.feed mark block = p.reader.feed (block.drop (mark - p.offset)) := by
    rw [feed, if_neg (by simpa using hne)]
  have hoffset : mark - p.offset - block.length = mark - (p.offset + block.length) := by omega
  rw [left, hdata, List.drop_append, Csv.Reader.feed_append, List.append_assoc, hfeed, hoffset]
  simp only [left, behind, hfeed]

/-! ### The data file while rows are written

Of the tree the reading sees the data file only, and at its place a run may put a file,
which is excluded, or a directory, which reads as no data like nothing at all. -/

theorem dataAt_congr (h : u.entry? place = t.entry? place ∨
    (t.entry? place = none ∧ u.entry? place = some .dir)) : dataAt u place = dataAt t place := by
  unfold dataAt
  rcases h with h | ⟨hnone, hdir⟩
  · rw [h]
  · rw [hnone, hdir]

/-- Rows whose files lie elsewhere leave the data file as it is. -/
theorem dataAt_rowsFrom {failure : Option Csv.Error} {header : Bool} {row : Nat}
    {records : List (List String)}
    (hok : (rowsFrom c template failure t header row records).error = none)
    (h : ∀ path ∈ (rowsFrom c template failure t header row records).written,
      t.place path ≠ place) :
    dataAt (rowsFrom c template failure t header row records).tree place = dataAt t place := by
  apply dataAt_congr
  rcases rowsFrom_entry hok place with ⟨out, ⟨before, r, behind, hrows, hr, hloc, -⟩, -⟩ | ⟨-, h⟩
  · refine absurd hloc (h out.target ?_)
    rw [(rowsFrom_ok hok).2.1, hrows]
    exact List.mem_map_of_mem (List.mem_filterMap.mpr ⟨r, by simp, hr⟩)
  · exact h

/-! ### Blocks and rows

The records of a block are gone through before the next one is read. So the induction is on
the blocks, and the tree that the next one is read from is the one the rows have led to. -/

/-- A run over a data file that it does not write over, from a place on. -/
theorem blocksFrom_eq_rowsFrom {data : List UInt8} (hlimit : data.length ≤ fileLimit)
    (hdata : (dataAt t place).data.toList = data)
    (h : ∀ path ∈ (blocksFrom c template place mark t p).written, t.place path ≠ place) :
    let read := Csv.decode none (p.left mark data)
    blocksFrom c template place mark t p =
      rowsFrom c template read.error t p.header p.row read.records := by
  fun_induction blocksFrom c template place mark t p with
  | case1 t p block hdone =>
      obtain ⟨hblock, hmode⟩ : block = [] ∧ p.reader.mode = .recordStart := by
        -- the end was reached, and no record was left open
        simpa [Progress.isDone] using hdone
      obtain ⟨n, hn⟩ := exists_blockAt hlimit hdata p.offset
      have hend := List.take_eq_nil_iff.mp (hn.symm.trans hblock)
      rw [Progress.left_of_drop_eq_nil (hend.resolve_left (Nat.succ_ne_zero n))]
      simp [Csv.Reader.finish, hmode, Csv.decode, rowsFrom]
  | case2 t p block hdone read ih =>
      let o := rowsFrom c template read.error t p.header p.row read.records
      let rest := Csv.decode none ((p.behind mark block).left mark data)
      -- the rows of this block leave the data file as it is, so the others are read from it too
      let further (u : Tree) : Outcome := rowsFrom c template rest.error u
        (p.behind mark block).header (p.behind mark block).row rest.records
      have hrest : o.error = none →
          blocksFrom c template place mark o.tree (p.behind mark block) = further o.tree := by
        intro hok
        rw [Outcome.andThen_of_ok o _ hok] at h
        refine ih o.tree ?_ fun path hpath => ?_
        · rw [dataAt_rowsFrom hok fun path hpath => h path (List.mem_append_left _ hpath), hdata]
        · rw [place_of_workDir_eq (workDir_rowsFrom ..)]
          exact h path (List.mem_append_right _ hpath)
      rw [Outcome.andThen_congr o _ further hrest]
      obtain ⟨n, hn⟩ := exists_blockAt hlimit hdata p.offset
      -- an empty block is the end of the data: the reader completes
      -- its last record, and that is all
      by_cases hblock : block = []
      · have hend : data.drop p.offset = [] :=
          (List.take_eq_nil_iff.mp (hn.symm.trans hblock)).resolve_left (Nat.succ_ne_zero n)
        have hnil : rest = ⟨[], none⟩ := by
          simp only [rest, hblock, Progress.left_behind_nil hend]
          rfl
        rw [Progress.left_of_drop_eq_nil hend]
        have hstill : further = fun u => .still u none := by
          funext u
          simp only [further, hnil]
          rfl
        rw [hstill, Outcome.andThen_still]
        simp only [o, read, hblock]
        rfl
      · rw [Progress.left_eq_append hn hblock]
        -- an error in a record of this block ends the reading, and what is left does not matter
        cases herror : read.error with
        | some e =>
            have hfails : o.error ≠ none := fun hok => by
              have hnone := (rowsFrom_ok hok).1
              rw [herror] at hnone
              cases hnone
            obtain ⟨e', he'⟩ := Option.ne_none_iff_exists'.mp hfails
            rw [Outcome.andThen_of_error o further he', Csv.decode_append_of_error herror]
            rfl
        | none =>
            rw [Csv.decode_append_of_ok herror]
            dsimp only
            rw [rowsFrom_append]
            simp only [o, herror]
            rfl

/-- The mark in front of the data lies in the first block. -/
theorem markLength_blockAt_zero {data : List UInt8} (hdata : (dataAt t place).data.toList = data) :
    Csv.markLength (blockAt t place 0) = Csv.markLength data := by
  have hprefix : Csv.byteOrderMark.isPrefixOf (blockAt t place 0) =
      Csv.byteOrderMark.isPrefixOf data := by
    rw [Bool.eq_iff_iff, List.isPrefixOf_iff_prefix, List.isPrefixOf_iff_prefix, blockAt,
      Array.toList_extract, List.extract_eq_take_drop, hdata, List.drop_zero, List.prefix_take_iff]
    exact and_iff_left (by decide)
  rw [Csv.markLength, Csv.markLength, hprefix]

/-- A run over a data file is one over the rows in it, if none of the files it writes lies in the
place of the data file. -/
theorem file_eq_rows (hlimit : (dataAt t place).data.toList.length ≤ fileLimit)
    (h : ∀ path ∈ (file c template t place).written, t.place path ≠ place) :
    file c template t place =
      rows c template t (Csv.read (dataAt t place).data.toList none) := by
  unfold file at h ⊢
  have hrows := blocksFrom_eq_rowsFrom hlimit rfl h
  have hmark : Csv.markLength (blockAt t place 0) = _ := markLength_blockAt_zero rfl
  simp only [Progress.left, List.drop_zero, Nat.sub_zero, hmark] at hrows ⊢
  exact hrows

/-- Whatever it writes, a run over a data file is one over some rows: those that it comes to read. -/
theorem exists_blocksFrom_eq_rowsFrom (c : Config) (template : String) (place : Location)
    (mark : Nat) (t : Tree) (p : Progress) :
    ∃ failure records, blocksFrom c template place mark t p =
      rowsFrom c template failure t p.header p.row records := by
  fun_induction blocksFrom c template place mark t p with
  | case1 => exact ⟨none, [], rfl⟩
  | case2 t p block hdone read ih =>
      let o := rowsFrom c template read.error t p.header p.row read.records
      cases hok : o.error with
      | some e => exact ⟨_, _, Outcome.andThen_of_error o _ hok⟩
      | none =>
          obtain ⟨failure, records, hrest⟩ := ih o.tree
          have hread : o = rowsFrom c template none t p.header p.row read.records := by
            rw [← (rowsFrom_ok hok).1]
          refine ⟨failure, read.records ++ records, ?_⟩
          rw [rowsFrom_append, ← hread]
          exact Outcome.andThen_congr o _ _ fun _ => hrest

/-- **A run over a data file is a run over rows.** They are those that the file holds, unless the run
writes over it. -/
theorem exists_file_eq_rows (c : Config) (template : String) (t : Tree) (place : Location) :
    ∃ reading, file c template t place = rows c template t reading ∧
      ((dataAt t place).data.toList.length ≤ fileLimit →
        (∀ path ∈ (file c template t place).written, t.place path ≠ place) →
        reading = Csv.read (dataAt t place).data.toList none) := by
  by_cases h : (dataAt t place).data.toList.length ≤ fileLimit ∧
      ∀ path ∈ (file c template t place).written, t.place path ≠ place
  · exact ⟨_, file_eq_rows h.1 h.2, fun _ _ => rfl⟩
  · obtain ⟨failure, records, hrun⟩ := exists_blocksFrom_eq_rowsFrom c template place
      (Csv.markLength (blockAt t place 0)) t
      ⟨0, .behindMark (Csv.markLength (blockAt t place 0)), c.ignoreHeader, 1⟩
    exact ⟨⟨records, failure⟩, hrun, fun hlimit hplace => absurd ⟨hlimit, hplace⟩ h⟩

/-- A run whose one row is written over the data file, which ends in it. It reads on there. -/
example :
    let t : Tree := ⟨[(["work"], .dir), (["work", "data"], .file "data".toUTF8)], ["work"]⟩
    let c : Config := {
      template := "template", data := "data", outputDir := ".", ignoreHeader := false
      skipInvalidRows := false, names := ["name"], fileName := "@name", modifier := ⟨[]⟩
      placeholder := ⟨"@variable", by decide⟩, filler := ⟨[]⟩ }
    (file c "data\nBob" t ["work", "data"]).written = ["./data", "./Bob"] := by
  decide +kernel

end MailMerge.Run
