import MailMerge.Regex.Syntax
import MailMerge.Text.White

/-!
# Reading a pattern character by character

A `Cursor` is what is left of a pattern together with the number of characters already read. Reading
is left to right; the steps that may pass over blanks and comments take the state of the `x` flag,
`verbose`, in which these mean nothing.
-/

namespace MailMerge.Regex

/-- The rest of a pattern and the count of the characters before it. -/
structure Cursor where
  offset : Nat
  rest : List Char
  deriving DecidableEq, Repr

namespace Cursor

/-- The cursor before a pattern. -/
def ofPattern (pattern : String) : Cursor := ⟨0, pattern.toList⟩

/-- The cursor `n` characters further on, or at the end. -/
def drop (c : Cursor) (n : Nat) : Cursor := ⟨c.offset + min n c.rest.length, c.rest.drop n⟩

/-- The cursor one character further on. -/
def bump (c : Cursor) : Cursor := c.drop 1

/-- The next character. -/
def peek? (c : Cursor) : Option Char := c.rest.head?

def atEnd (c : Cursor) : Bool := c.rest.isEmpty

/-- The empty span before the next character. -/
def here (c : Cursor) : Span := ⟨c.offset, c.offset⟩

/-- The span of the next character. -/
def charSpan (c : Cursor) : Span := ⟨c.offset, c.offset + 1⟩

/-- The span from an earlier offset up to the cursor. -/
def since (c : Cursor) (start : Nat) : Span := ⟨start, c.offset⟩

/-- Continues at a later cursor, passing at least one character. -/
def resume (c later : Cursor) : Cursor := c.drop (max 1 (later.offset - c.offset))

/-- The text is passed if it stands next. -/
def eat? (c : Cursor) (text : String) : Option Cursor :=
  if text.toList.isPrefixOf c.rest then some (c.drop text.length) else none

theorem length_resume_lt {c : Cursor} (later : Cursor) (h : c.rest ≠ []) :
    (c.resume later).rest.length < c.rest.length := by
  have : 0 < c.rest.length := List.length_pos_iff.mpr h
  simp only [resume, drop, List.length_drop]
  omega

end Cursor

/-- The number of characters in the blanks and comments at the start of a text. A comment runs from
`#` to the end of its line. -/
def blankLength (inComment : Bool) : List Char → Nat
  | [] => 0
  | c :: rest =>
    if inComment then 1 + blankLength (c ≠ '\n') rest
    else if Text.isWhite c then 1 + blankLength false rest
    else if c = '#' then 1 + blankLength true rest
    else 0

/-- Passes over blanks and comments in verbose mode. -/
def Cursor.skipBlank (verbose : Bool) (c : Cursor) : Cursor :=
  if verbose then c.drop (blankLength false c.rest) else c

/-- Passes one character and, in verbose mode, the blanks behind it. -/
def Cursor.advance (verbose : Bool) (c : Cursor) : Cursor := c.bump.skipBlank verbose

theorem Cursor.length_skipBlank_le (verbose : Bool) (c : Cursor) :
    (c.skipBlank verbose).rest.length ≤ c.rest.length := by
  unfold skipBlank
  split
  · simp [drop]
  · exact Nat.le_refl _

/-- The character after the next one, blanks aside. In verbose mode one `#` is passed over with the
blanks around it, and the text of the comment is not. -/
def Cursor.peekPast? (verbose : Bool) (c : Cursor) : Option Char :=
  let after := c.rest.drop 1
  if verbose then
    let unblank := after.dropWhile Text.isWhite
    let visible := if unblank.head? = some '#' then unblank.tail.dropWhile Text.isWhite else unblank
    visible.head?.or after.head?
  else after.head?

/-- A mistake at a span. -/
def mistake (fault : Fault) (span : Span) : Except Mistake α := .error ⟨fault, span⟩

end MailMerge.Regex
