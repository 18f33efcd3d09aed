import MailMerge.Run.Rows

/-!
# Reading the data file while writing

The data file is read block by block, and the rows that end in a block are gone through before the
next block is read. At the end of the file a last record without a line end is complete, and its row
is gone through; then the file is looked at once more. A run that writes over its own data file
therefore reads on in what it wrote, from the place it had come to, also behind such a record. If it
does not write there, this is `Run.rows` over the content of the file.

A block that is read lies within what a file can hold, so that there is an end to reading even where
every row lengthens the file.
-/

namespace MailMerge.Run

/-- How many bytes are read at once. -/
def blockSize : Nat := 8192

/-- How many bytes a file can hold: offsets are signed numbers of 64 bits. -/
def fileLimit : Nat := 0x7FFFFFFFFFFFFFFF

/-- The content of the data file at a location. -/
def dataAt (t : File.Tree) (place : File.Location) : ByteArray :=
  match t.entry? place with
  | some (.file content) => content
  | _ => .empty

/-- The block of a file at an offset. It is empty at the end of the file. -/
def blockAt (t : File.Tree) (place : File.Location) (offset : Nat) : List UInt8 :=
  ((dataAt t place).data.extract offset (min (offset + blockSize) fileLimit)).toList

/-- Where a run over a data file stands. -/
structure Progress where
  offset : Nat
  reader : Csv.Reader
  /-- Whether the next record is the header. -/
  header : Bool
  /-- The number of the next row. -/
  row : Nat

namespace Progress

/-- Whether the end of the file is the end of the run, no record being read. -/
def isDone (p : Progress) (block : List UInt8) : Bool :=
  block.isEmpty && p.reader.mode = .recordStart

/-- The records that end in a block, and the reader behind it. An empty block is the end of the file.
`mark` is the length of the mark in front of the data. -/
def feed (p : Progress) (mark : Nat) (block : List UInt8) : List Csv.Raw × Csv.Reader :=
  if block.isEmpty then (p.reader.finish, p.reader.behindEnd)
  else p.reader.feed (block.drop (mark - p.offset))

/-- The rows that end in a block. -/
def reading (p : Progress) (mark : Nat) (block : List UInt8) : Csv.Reading :=
  Csv.decode none (p.feed mark block).1

/-- Where a run stands behind a block. -/
def behind (p : Progress) (mark : Nat) (block : List UInt8) : Progress where
  offset := p.offset + block.length
  reader := (p.feed mark block).2
  header := p.header && (p.reading mark block).records.isEmpty
  row := p.row + (p.reading mark block).records.length

/-- How much there is to read at most: what a file can hold behind the offset, and the end of the
file once more for a record that it ends. -/
def room (p : Progress) : Nat :=
  2 * (fileLimit - p.offset) + (p.reader.mode != .recordStart).toNat

end Progress

theorem length_blockAt_le (t : File.Tree) (place : File.Location) (offset : Nat) :
    (blockAt t place offset).length ≤ fileLimit - offset := by
  rw [blockAt, Array.length_toList, Array.size_extract]
  omega

/-- Behind a block there is less to read. -/
theorem Progress.room_behind_lt {p : Progress} {mark : Nat} {block : List UInt8}
    (hle : block.length ≤ fileLimit - p.offset) (h : ¬ p.isDone block) :
    (p.behind mark block).room < p.room := by
  cases block with
  | nil =>
      -- behind the end of the file the reader is in front of a record, which it was not before
      have hmode : (p.reader.mode != .recordStart) = true := by simpa [isDone] using h
      simp [room, behind, feed, Csv.Reader.behindEnd, Csv.Reader.start, hmode]
  | cons b rest =>
      have hbit := Bool.toNat_le ((p.behind mark (b :: rest)).reader.mode != .recordStart)
      have hoffset : (p.behind mark (b :: rest)).offset = p.offset + (rest.length + 1) := rfl
      rw [List.length_cons] at hle
      unfold room
      omega

/-- Runs over a data file from a place on. -/
def blocksFrom (c : Config) (template : String) (place : File.Location) (mark : Nat)
    (t : File.Tree) (p : Progress) : Outcome :=
  let block := blockAt t place p.offset
  if _h : p.isDone block then .still t none
  else
    let read := p.reading mark block
    (rowsFrom c template read.error t p.header p.row read.records).andThen fun t =>
      blocksFrom c template place mark t (p.behind mark block)
termination_by p.room
decreasing_by exact Progress.room_behind_lt (length_blockAt_le ..) _h

/-- Runs over the data file at a location. -/
def file (c : Config) (template : String) (t : File.Tree) (place : File.Location) : Outcome :=
  let mark := Csv.markLength (blockAt t place 0)
  blocksFrom c template place mark t ⟨0, .behindMark mark, c.ignoreHeader, 1⟩

end MailMerge.Run
