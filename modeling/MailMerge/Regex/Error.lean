import MailMerge.Regex.Span

/-!
# What can be wrong with a pattern

A `Fault` is a cause, and an `Error` a fault with the place where it was found. The report quotes
the pattern and marks the place:

    regex parse error:
        a**(
           ^
    error: unclosed group

A pattern of several lines is quoted between two rules, with numbered lines.
-/

namespace MailMerge.Regex

/-- The ways in which a pattern can be malformed or ask for what cannot be matched. Where two places
clash, the fault holds the earlier one. -/
inductive Fault where
  | classEscapeInvalid
  | classRangeInvalid
  | classRangeLiteral
  | classUnclosed
  | decimalInvalid
  | escapeEnd
  | escapeUnrecognized
  | flagDanglingNegation
  | flagDuplicate (first : Span)
  | flagEnd
  | flagRepeatedNegation (first : Span)
  | flagUnrecognized
  | groupNameDuplicate (first : Span)
  | groupNameEmpty
  | groupNameEnd
  | groupNameInvalid
  | groupUnclosed
  | groupUnopened
  | hexEmpty
  | hexInvalid
  | hexInvalidDigit
  | invalidUtf8
  | nestTooDeep
  | propertyNotFound
  | propertyValueNotFound
  | repetitionCountEmpty
  | repetitionCountInvalid
  | repetitionCountUnclosed
  | repetitionMissing
  | unicodeClassInvalid
  | unicodeNotAllowed
  | unsupportedBackreference
  | unsupportedLookAround
  | wordBoundaryOrCountEnd
  | wordBoundaryUnclosed
  | wordBoundaryUnknown
  deriving DecidableEq, Repr

/-- How deep groups, brackets and operators may be nested. -/
def nestLimit : Nat := 250

/-- The sentence that describes a fault. -/
def Fault.message : Fault → String
  | classEscapeInvalid => "invalid escape sequence found in character class"
  | classRangeInvalid => "invalid character class range, the start must be <= the end"
  | classRangeLiteral => "invalid range boundary, must be a literal"
  | classUnclosed => "unclosed character class"
  | decimalInvalid => "decimal literal invalid"
  | escapeEnd => "incomplete escape sequence, reached end of pattern prematurely"
  | escapeUnrecognized => "unrecognized escape sequence"
  | flagDanglingNegation => "dangling flag negation operator"
  | flagDuplicate _ => "duplicate flag"
  | flagEnd => "expected flag but got end of regex"
  | flagRepeatedNegation _ => "flag negation operator repeated"
  | flagUnrecognized => "unrecognized flag"
  | groupNameDuplicate _ => "duplicate capture group name"
  | groupNameEmpty => "empty capture group name"
  | groupNameEnd => "unclosed capture group name"
  | groupNameInvalid => "invalid capture group character"
  | groupUnclosed => "unclosed group"
  | groupUnopened => "unopened group"
  | hexEmpty => "hexadecimal literal empty"
  | hexInvalid => "hexadecimal literal is not a Unicode scalar value"
  | hexInvalidDigit => "invalid hexadecimal digit"
  | invalidUtf8 => "pattern can match invalid UTF-8"
  | nestTooDeep =>
    "exceed the maximum number of nested parentheses/brackets (" ++ toString nestLimit ++ ")"
  | propertyNotFound => "Unicode property not found"
  | propertyValueNotFound => "Unicode property value not found"
  | repetitionCountEmpty => "repetition quantifier expects a valid decimal"
  | repetitionCountInvalid =>
    "invalid repetition count range, the start must be <= the end"
  | repetitionCountUnclosed => "unclosed counted repetition"
  | repetitionMissing => "repetition operator missing expression"
  | unicodeClassInvalid => "invalid Unicode character class"
  | unicodeNotAllowed => "Unicode not allowed here"
  | unsupportedBackreference => "backreferences are not supported"
  | unsupportedLookAround =>
    "look-around, including look-ahead and look-behind, is not supported"
  | wordBoundaryOrCountEnd =>
    "found either the beginning of a special word boundary or a bounded repetition on a \\b " ++
      "with an opening brace, but no closing brace"
  | wordBoundaryUnclosed =>
    "special word boundary assertion is either unclosed or contains an invalid character"
  | wordBoundaryUnknown =>
    "unrecognized special word boundary assertion, valid choices are: start, end, start-half or " ++
      "end-half"

/-- The earlier place that a fault clashes with. -/
def Fault.other? : Fault → Option Span
  | flagDuplicate s | flagRepeatedNegation s | groupNameDuplicate s => some s
  | _ => none

/-- A fault and where it was found. -/
structure Mistake where
  fault : Fault
  span : Span
  deriving DecidableEq, Repr

/-- Why a pattern was refused. -/
inductive Error where
  /-- The pattern is malformed. -/
  | malformed (pattern : String) (mistake : Mistake)
  /-- The pattern is well-formed, but the program for it would take too much room. -/
  | tooLarge
  deriving DecidableEq, Repr

/-- How many bytes the program for a pattern may take. -/
def sizeLimit : Nat := 10485760

/-! ### The report -/

/-- The lines of a text, each ended by a line feed with an optional carriage return before it; the
last one may lack its end. -/
def linesOf (text : List Char) : List (List Char) :=
  let parts := text.splitOn '\n'
  let parts := if parts.getLast? = some [] then parts.dropLast else parts
  let count := if text.getLast? = some '\n' then parts.length else parts.length - 1
  parts.mapIdx fun i line =>
    if i < count ∧ line.getLast? = some '\r' then line.dropLast else line

/-- The two ends of a span as places in a pattern. -/
private def Span.places (pattern : List Char) (s : Span) : Place × Place :=
  (.after (pattern.take s.start), .after (pattern.take s.stop))

private def spaces (n : Nat) : String := String.ofList (List.replicate n ' ')

/-- Marks under one line: `pos` columns are written, and each mark covers at least one column. -/
private def marks (pos : Nat) : List (Place × Place) → String
  | [] => ""
  | (first, last) :: rest =>
    let width := max 1 (last.column - first.column)
    spaces (first.column - 1 - pos) ++ String.ofList (List.replicate width '^') ++
      marks (max pos (first.column - 1) + width) rest

/-- The report of a mistake in a pattern. -/
def Mistake.report (pattern : String) (m : Mistake) : String :=
  let chars := pattern.toList
  let lines := linesOf chars
  let lineCount := lines.length + if chars.getLast? = some '\n' then 1 else 0
  let width := (toString lineCount).length
  let manyLines := chars.contains '\n'
  let spans := ((m.span :: m.fault.other?.toList).mergeSort fun a b =>
    a.start < b.start ∨ a.start = b.start ∧ a.stop ≤ b.stop).map (Span.places chars)
  let within := spans.filter fun (a, b) => a.line = b.line
  let across := spans.filter fun (a, b) => a.line ≠ b.line
  let quoted := (lines.mapIdx fun i line =>
    let number := toString (i + 1)
    let start :=
      if lineCount ≤ 1 then spaces 4 else spaces (width - number.length) ++ number ++ ": "
    let here := within.filter fun (a, _) => a.line = i + 1
    let under :=
      if here.isEmpty then ""
      else spaces (if lineCount ≤ 1 then 4 else width + 2) ++ marks 0 here ++ "\n"
    start ++ String.ofList line ++ "\n" ++ under).foldl (· ++ ·) ""
  let rule := String.ofList (List.replicate 79 '~') ++ "\n"
  let notes := "\n".intercalate (across.map fun (a, b) =>
    "on line " ++ toString a.line ++ " (column " ++ toString a.column ++ ") through line " ++
      toString b.line ++ " (column " ++ toString (b.column - 1) ++ ")")
  "regex parse error:\n" ++
    (if manyLines then rule ++ quoted ++ rule else quoted) ++
    (if manyLines ∧ ¬ across.isEmpty then notes ++ "\n" else "") ++
    "error: " ++ m.fault.message

/-- The text of an error. -/
def Error.message : Error → String
  | .malformed pattern mistake => mistake.report pattern
  | .tooLarge => "Compiled regex exceeds size limit of " ++ toString sizeLimit ++ " bytes."

end MailMerge.Regex
