/-!
# Places in a pattern

Errors in a pattern point at a stretch of its characters. A `Span` counts characters from the start
of the pattern; `Place` gives the line and column of one end, for the report.
-/

namespace MailMerge.Regex

/-- The characters from `start` up to but not including `stop`. An empty span stands between two
characters. -/
structure Span where
  start : Nat
  stop : Nat
  deriving DecidableEq, Repr, Inhabited

/-- A line and a column, both counted from one. -/
structure Place where
  line : Nat
  column : Nat
  deriving DecidableEq, Repr

/-- The place behind a list of characters: each line feed starts a new line. -/
def Place.after (before : List Char) : Place :=
  before.foldl (fun p c => if c = '\n' then ⟨p.line + 1, 1⟩ else ⟨p.line, p.column + 1⟩) ⟨1, 1⟩

end MailMerge.Regex
