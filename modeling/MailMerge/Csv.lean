/-!
# Reading data files

A data file is a sequence of records of fields. Commas part the fields, and a line feed or a
carriage return ends a record; blank lines are no records. A field that starts with a quote runs to
the next quote that stands alone, and two quotes in it write one. Records may differ in length, and
no record is special.

Fields are bytes until a whole record is read; then each must be text. Reading stops at the first
record that is not, or where the source of the data fails.
-/

namespace MailMerge.Csv

/-- Where a record starts: how many records, line feeds (and one) and bytes lie before it. -/
structure Place where
  record : Nat
  line : Nat
  byte : Nat
  deriving DecidableEq, Repr

/-- Why reading stopped. -/
inductive Error where
  /-- A field is no text from some byte of the field on. -/
  | notText (place : Place) (field : Nat) (validUpTo : Nat)
  /-- The source of the data failed. -/
  | source (text : String)
  deriving DecidableEq, Repr

/-- The text of an error. -/
def Error.message : Error → String
  | .notText place field validUpTo =>
    "CSV parse error: record " ++ toString place.record ++ " (line " ++ toString place.line ++
      ", field: " ++ toString field ++ ", byte: " ++ toString place.byte ++
      "): invalid utf-8: invalid UTF-8 in field " ++ toString field ++ " near byte index " ++
      toString validUpTo
  | .source text => text

/-! ### Records of bytes

A byte is read by the place it stands in: between records, between fields, in a field or
behind a quote. The reader needs no bytes ahead, so data may be given to it in parts of any
length. -/

/-- Where reading stands in a record. -/
inductive Mode where
  /-- Before a record, where line ends mean nothing. -/
  | recordStart
  /-- Before a field. -/
  | fieldStart
  /-- In a field without quotes, or behind the quoted part of one. -/
  | bare
  /-- Between quotes. -/
  | quoted
  /-- Behind a quote that may end the quoted part. -/
  | quoteSeen
  deriving DecidableEq, Repr

/-- A record before its fields are read as text. -/
structure Raw where
  place : Place
  fields : List (List UInt8)
  deriving DecidableEq, Repr

/-- The record being read: its place, its complete fields, last one first, and the bytes of the
field being read, last one first. -/
structure Partial where
  place : Place
  fields : List (List UInt8)
  field : List UInt8

namespace Partial

def new (place : Place) : Partial := ⟨place, [], []⟩

/-- The record with one more byte in its last field. -/
def byte (p : Partial) (b : UInt8) : Partial := { p with field := b :: p.field }

/-- The record with its last field ended. -/
def endField (p : Partial) : Partial :=
  { p with fields := p.field.reverse :: p.fields, field := [] }

/-- The record, ended with its last field. -/
def finish (p : Partial) : Raw := ⟨p.place, p.endField.fields.reverse⟩

end Partial

def comma : UInt8 := 0x2C
def quote : UInt8 := 0x22
def lineFeed : UInt8 := 0x0A
def carriageReturn : UInt8 := 0x0D

/-- Whether a byte ends a record. -/
def isLineEnd (b : UInt8) : Bool := b = lineFeed || b = carriageReturn

/-- What a byte does to the record being read. -/
inductive Move where
  | go (mode : Mode) (p : Partial)
  | finished (r : Raw)

/-- A byte outside quotes: it ends the field, ends the record or belongs to the field. -/
def bareMove (p : Partial) (b : UInt8) : Move :=
  if b = comma then .go .fieldStart p.endField
  else if isLineEnd b then .finished p.finish
  else .go .bare (p.byte b)

/-- The move of a byte in each mode. -/
def move (mode : Mode) (p : Partial) (b : UInt8) : Move :=
  match mode with
  | .recordStart =>
    -- blank lines are no records, and a line feed behind a carriage return is one of them
    if isLineEnd b then .go .recordStart p
    else if b = quote then .go .quoted p
    else bareMove p b
  | .fieldStart => if b = quote then .go .quoted p else bareMove p b
  | .bare => bareMove p b
  | .quoted => if b = quote then .go .quoteSeen p else .go .quoted (p.byte b)
  | .quoteSeen => if b = quote then .go .quoted (p.byte b) else bareMove p b

/-- The place behind a byte. -/
def Place.after (place : Place) (b : UInt8) : Place :=
  { place with byte := place.byte + 1, line := place.line + if b = lineFeed then 1 else 0 }

/-- Where reading stands: the place of the next byte, and what was read of the record there. -/
structure Reader where
  now : Place
  mode : Mode
  current : Partial

namespace Reader

/-- The reader in front of the first record. -/
def start (place : Place) : Reader := ⟨place, .recordStart, .new place⟩

/-- Reads bytes: the records that end in them, and where reading stands behind them. -/
def feed (s : Reader) : List UInt8 → List Raw × Reader
  | [] => ([], s)
  | b :: rest =>
    let next := s.now.after b
    match move s.mode s.current b with
    | .go mode p => feed ⟨next, mode, p⟩ rest
    -- a record ends here, and the next one begins behind it
    | .finished r =>
      let (more, last) := feed (.start { next with record := next.record + 1 }) rest
      (r :: more, last)

/-- The record that the end of the data ends. -/
def finish (s : Reader) : List Raw :=
  if s.mode = .recordStart then [] else [s.current.finish]

/-- The reader behind the record that the end of the data ends. Data that comes later starts another
record. -/
def behindEnd (s : Reader) : Reader :=
  .start { s.now with record := s.now.record + s.finish.length }

/-- Reading in two steps is reading at once. -/
theorem feed_append (s : Reader) (xs ys : List UInt8) :
    s.feed (xs ++ ys) =
      ((s.feed xs).1 ++ ((s.feed xs).2.feed ys).1, ((s.feed xs).2.feed ys).2) := by
  induction xs generalizing s with
  | nil => simp [feed]
  | cons b rest ih =>
    simp only [List.cons_append, feed]
    split <;> simp [ih]

end Reader

/-- The mark that may stand before the data and is no part of it. -/
def byteOrderMark : List UInt8 := [0xEF, 0xBB, 0xBF]

/-- The length of the mark in front of some data. -/
def markLength (data : List UInt8) : Nat :=
  if byteOrderMark.isPrefixOf data then byteOrderMark.length else 0

/-- The reader behind a mark of some length. The mark lies within the first record. -/
def Reader.behindMark (length : Nat) : Reader :=
  { Reader.start ⟨0, 1, 0⟩ with now := ⟨0, 1, length⟩ }

/-- The records of a data file as bytes. At the end of the data the record being read is complete;
where the source fails (`cut`) it is lost. -/
def rawRecords (cut : Bool) (data : List UInt8) : List Raw :=
  let mark := markLength data
  let (records, last) := (Reader.behindMark mark).feed (data.drop mark)
  records ++ if cut then [] else last.finish

/-! ### Records of text

The fields of a record are read as text only when the record is complete, and the records
only up to the first with a field that is no text. -/

/-- The text of a field. -/
def text? (field : List UInt8) : Option String := String.fromUTF8? ⟨field.toArray⟩

/-- The length of the longest start of a field that is text. -/
def validLength (field : List UInt8) : Nat :=
  (((List.range (field.length + 1)).reverse).find? fun n => (text? (field.take n)).isSome).getD 0

/-- The fields of a record as text, from the given field number on. -/
def decodeFields (place : Place) (index : Nat) : List (List UInt8) → Except Error (List String)
  | [] => .ok []
  | field :: rest =>
    match text? field with
    | none => .error (.notText place index (validLength field))
    | some s => (decodeFields place (index + 1) rest).map (s :: ·)

/-- What reading gives: the records up to the first error, and the error. -/
structure Reading where
  records : List (List String)
  error : Option Error
  deriving DecidableEq, Repr

/-- Reads raw records as text up to the first that is none. -/
def decode (failure : Option Error) : List Raw → Reading
  | [] => ⟨[], failure⟩
  | r :: rest =>
    match decodeFields r.place 0 r.fields with
    | .error e => ⟨[], some e⟩
    | .ok fields =>
      let more := decode failure rest
      ⟨fields :: more.records, more.error⟩

/-- Reads a data file. `failure` is the text with which the source of the data fails behind the last
byte, if it does. -/
def read (data : List UInt8) (failure : Option String) : Reading :=
  decode (failure.map .source) (rawRecords failure.isSome data)

end MailMerge.Csv
