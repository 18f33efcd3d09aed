/-!
# Reading YAML character by character

A cursor is the text that is left, with its place: the number of characters before it, its line, and
its column. Line and column decide what a character means, so every step keeps them. A carriage
return and a line feed together are one line break.
-/

namespace MailMerge.Yaml

/-- Whether a character may stand in a YAML text. -/
def isPrintable (c : Char) : Bool :=
  c = '\t' || c = '\n' || c = '\r' || (' ' ≤ c && c ≤ '~') || c = '\u0085' ||
    ('\u00A0' ≤ c && c ≤ '\uFFFD') || 0x10000 ≤ c.toNat

/-- Whether a character is a blank. -/
def isBlank (c : Char) : Bool := c = ' ' || c = '\t'

/-- Whether a character ends a line. -/
def isBreak (c : Char) : Bool :=
  c = '\r' || c = '\n' || c = '\u0085' || c = '\u2028' || c = '\u2029'

/-- Whether a character may stand in the name of an anchor or a handle. -/
def isWordChar (c : Char) : Bool := c.isAlphanum || c = '_' || c = '-'

/-- The text that is left, and its place. -/
structure Cursor where
  rest : List Char
  index : Nat
  line : Nat
  column : Nat
  deriving Repr

namespace Cursor

/-- The cursor before a text. -/
def ofText (text : List Char) : Cursor := ⟨text, 0, 0, 0⟩

/-- The next character. -/
def peek? (c : Cursor) : Option Char := c.rest.head?

/-- The character `n` places further on. -/
def at? (c : Cursor) (n : Nat) : Option Char := c.rest[n]?

/-- Passes one character on the same line. -/
def skip (c : Cursor) : Cursor :=
  { c with rest := c.rest.drop 1, index := c.index + 1, column := c.column + 1 }

/-- Passes `n` characters on the same line. -/
def skipMany (c : Cursor) (n : Nat) : Cursor :=
  { c with rest := c.rest.drop n, index := c.index + n, column := c.column + n }

/-- Passes the characters that meet a condition, none of which ends a line. -/
def skipWhile (p : Char → Bool) (c : Cursor) : Cursor := c.skipMany (c.rest.takeWhile p).length

/-- Passes a line break. -/
def skipLine (c : Cursor) : Cursor :=
  let n := if ['\r', '\n'].isPrefixOf c.rest then 2 else 1
  { rest := c.rest.drop n, index := c.index + n, line := c.line + 1, column := 0 }

/-- The character that a line break at the cursor stands for in a text. The two separators of
Unicode stand for themselves, all other breaks for a line feed. -/
def breakChar (c : Cursor) : Char :=
  match c.peek? with
  | some '\u2028' => '\u2028'
  | some '\u2029' => '\u2029'
  | _ => '\n'

/-- Whether a blank, a line break or the end of the text is `n` places further on. -/
def blankAt (c : Cursor) (n : Nat) : Bool := (c.at? n).all fun d => isBlank d || isBreak d

def atBlank (c : Cursor) : Bool := c.peek?.any isBlank

def atBreak (c : Cursor) : Bool := c.peek?.any isBreak

/-- Whether the next character is `ch`. -/
def looksAt (c : Cursor) (ch : Char) : Bool := c.peek? = some ch

/-- Whether the next character is one of a list. -/
def looksAtAny (c : Cursor) (chs : List Char) : Bool := c.peek?.any chs.contains

/-- Whether a line that only marks the start or the end of a document begins here. -/
def atDocumentMark (mark : Char) (c : Cursor) : Bool :=
  c.column = 0 && [mark, mark, mark].isPrefixOf c.rest && c.blankAt 3

/-- Whether either mark begins here. -/
def atAnyMark (c : Cursor) : Bool := c.atDocumentMark '-' || c.atDocumentMark '.'

/-- Passes blanks and a comment up to the end of the line, where nothing else may stand. -/
def skipToLineEnd? (c : Cursor) : Option Cursor :=
  let c := c.skipWhile isBlank
  let c := if c.looksAt '#' then c.skipWhile (!isBreak ·) else c
  if c.rest.isEmpty then some c else if c.atBreak then some c.skipLine else none

end Cursor
end MailMerge.Yaml
