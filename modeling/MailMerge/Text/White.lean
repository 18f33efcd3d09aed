/-!
# White space

The characters that Unicode calls white space, and trimming by them. What is left of a text after
trimming neither starts nor ends with white space.
-/

namespace MailMerge.Text

/-- Whether a character is white space: the blank, the five control characters for lines and tabs,
the next-line character, and the space separators of all scripts. -/
def isWhite (c : Char) : Bool :=
  c == ' ' || ('\t' ≤ c && c ≤ '\r') || c == '\u0085' || c == '\u00A0' || c == '\u1680' ||
    ('\u2000' ≤ c && c ≤ '\u200A') || c == '\u2028' || c == '\u2029' || c == '\u202F' ||
    c == '\u205F' || c == '\u3000'

/-- A list without the members at its end that meet a condition. -/
def trimEndOf {α : Type} (p : α → Bool) (xs : List α) : List α := (xs.reverse.dropWhile p).reverse

/-- A list of characters without white space at both ends. -/
def trimChars (cs : List Char) : List Char := trimEndOf isWhite (cs.dropWhile isWhite)

/-- A text without white space at both ends. -/
def trim (s : String) : String := String.ofList (trimChars s.toList)

/-- Whether a text has no character but white space. -/
def isBlank (s : String) : Bool := s.toList.all isWhite

/-- A text without the line ends at its end. -/
def dropLineEnds (s : String) : String :=
  String.ofList (trimEndOf (fun c => c == '\r' || c == '\n') s.toList)

end MailMerge.Text
