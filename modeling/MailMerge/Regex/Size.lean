import MailMerge.Regex.Error
import MailMerge.Regex.Pattern

/-!
# The size of programs

A pattern is refused if its program takes too much room. That program works on the bytes of the
UTF-8 form of a text, and there are two of it: one reads the text forwards, and the other one reads
it backwards from the end of a match to its start. A state takes 32 bytes, and what it leads to takes
more where there are several ways:

    a state that reads one byte                                 32
    a state that reads a byte of one of n ranges                32 + 8 n
    a state that goes on in one of n ways without reading       32 + 4 n

The states for a class or for a list of words are shared where they go on in the same way. States
that were shared are never forgotten here.
-/

namespace MailMerge.Regex

private def total (sizes : List Nat) : Nat := sizes.foldl (· + ·) 0

/-- The room of a state that reads a byte of one of several ranges. -/
private def readerBytes (ranges : Nat) : Nat := 32 + 8 * ranges

/-- The room of a state that goes on in one of several ways. -/
private def choiceBytes (ways : Nat) : Nat := 32 + 4 * ways

/-! ### Classes -/

/-- The numbers of a range, written with a first digit and a number of digits of six bits behind it:
lists of ranges such that each number of the range is written by digits from just one of them. -/
def digitRanges : Nat → CharRange → List (List CharRange)
  | 0, r => [[r]]
  | n + 1, r =>
    let unit := Nat.pow 64 (n + 1)
    let first := r.lo / unit
    let last := r.hi / unit
    if first = last then (digitRanges n ⟨r.lo % unit, r.hi % unit⟩).map (.single first :: ·)
    else
      -- a first digit that is not used up stands apart, and so does such a last one
      let front := if r.lo % unit = 0 then []
        else (digitRanges n ⟨r.lo % unit, unit - 1⟩).map (.single first :: ·)
      let back := if r.hi % unit = unit - 1 then []
        else (digitRanges n ⟨0, r.hi % unit⟩).map (.single last :: ·)
      let inner : CharRange :=
        ⟨if front.isEmpty then first else first + 1, if back.isEmpty then last else last - 1⟩
      let whole := if inner.lo ≤ inner.hi then [inner :: .replicate (n + 1) ⟨0, 63⟩] else []
      front ++ whole ++ back

/-- The code points whose UTF-8 forms are alike: with the number of bytes behind the first one, and
what the first byte is counted from. -/
def utf8Bands : List (CharRange × Nat × Nat) :=
  [(⟨0, 0x7F⟩, 0, 0), (⟨0x80, 0x7FF⟩, 1, 0xC0), (⟨0x800, 0xD7FF⟩, 2, 0xE0),
    (⟨0xE000, 0xFFFF⟩, 2, 0xE0), (⟨0x10000, 0x10FFFF⟩, 3, 0xF0)]

/-- The UTF-8 forms of the characters of a set: lists of ranges, one for each byte. -/
def utf8Ranges (s : CharSet) : List (List CharRange) :=
  let offset (n : Nat) (r : CharRange) : CharRange := ⟨n + r.lo, n + r.hi⟩
  s.ranges.flatMap fun r => utf8Bands.flatMap fun (band, n, lead) =>
    let r := r.inter band
    if r.lo ≤ r.hi then
      (digitRanges n r).map fun
        | [] => []
        | digit :: rest => offset lead digit :: rest.map (offset 0x80)
    else []

/-- Forms that start with the same range, together. -/
def byFirst (forms : List (List CharRange)) : List (List (List CharRange)) :=
  forms.splitBy fun f g => f.head? = g.head?

/-- What may be left of some forms of at most `n` bytes, from no byte on. -/
def remainders : Nat → List (List CharRange) → List (List (List CharRange))
  | 0, _ => []
  | n + 1, forms =>
    let behind := ((byFirst forms).map fun group => group.map List.tail).filter (·.any (· ≠ []))
    forms :: behind.flatMap (remainders n)

/-- The room of the states for a set of characters that are not all of one byte. Forwards, a state
stands for what may be left to read, and so is shared by all that may go on in the same way.
Backwards, a state stands for what is left to read in one way, and there is a choice of all forms. -/
private def utf8Bytes (reverse : Bool) (s : CharSet) : Nat :=
  let forms := utf8Ranges s
  let left := remainders 4 forms
  if reverse then
    choiceBytes forms.length + 32 + total (left.map fun forms => 32 * (byFirst forms).length)
  else 32 + total (left.eraseDups.map fun forms => readerBytes (byFirst forms).length)

/-- The bytes of a class of one character. -/
def CharClass.word (c : CharClass) : List Nat := (utf8Ranges c.toCharSet).flatten.map CharRange.lo

/-- The room of the states for a class. -/
def CharClass.bytes (reverse : Bool) (c : CharClass) : Nat :=
  if c.isLiteral then 32 * c.word.length
  else if c.isAscii then readerBytes c.ranges.length + 32
  else utf8Bytes reverse c.toCharSet

/-! ### Words -/

/-- The room of the states for a list of words of at most `n` bytes. Words that start alike share
their first states, unless a word that ends there stands between them in the list. -/
def trieBytes : Nat → List (List Nat) → Nat
  | 0, _ => 0
  | n + 1, words =>
    -- of the words that end here before any goes on, all but one make no difference
    let ends := (words.dropWhile List.isEmpty).countP List.isEmpty +
      (if words.head? = some [] then 1 else 0)
    let chunks := (words.splitOnP List.isEmpty).filter (· ≠ [])
    let sizes := chunks.map fun chunk =>
      let firsts := (chunk.filterMap List.head?).eraseDups
      let behind := firsts.map fun b => (chunk.filter (·.head? = some b)).map List.tail
      (if firsts.length = 1 then 32 else readerBytes firsts.length) +
        total ((behind.filter (·.any (· ≠ []))).map (trieBytes n))
    choiceBytes (chunks.length + ends) + total sizes

namespace Pattern

/-- The bytes of a pattern that is a run of characters. -/
def word? (p : Pattern) : Option (List Nat) :=
  if p.items ≠ [] ∧ p.items.all isLiteral then
    some (p.items.flatMap fun q => q.class?.elim [] CharClass.word)
  else none

/-- The words that a pattern offers as its alternatives. -/
def words? (p : Pattern) : Option (List (List Nat)) := p.branches.mapM word?

/-! ### Repetitions -/

/-- The least number of characters that a pattern matches, if it is known to match something. -/
def minLength? : Pattern → Option Nat
  | .empty | .look _ => some 0
  | .chars c => if c.ranges = [] then none else some 1
  | .group _ p => p.minLength?
  | .seq p q => do return (← p.minLength?) + (← q.minLength?)
  | .alt p q => do return Nat.min (← p.minLength?) (← q.minLength?)
  | .repeated _ min _ p => do return min * (← p.minLength?)

/-- The room of the states for a repetition, given the room for what is repeated once. -/
def repeatedBytes (p : Pattern) (min : Nat) (max : Option Nat) (once : Nat) : Nat :=
  match min, max with
  | 0, some 1 => choiceBytes 2 + once + 32
  | 0, none =>
    if p.minLength?.any (0 < ·) then choiceBytes 2 + once
    else choiceBytes 2 + choiceBytes 2 + once + 32
  | min, none => min * once + choiceBytes 2
  | min, some max =>
    let needed := if min = 0 then 32 else min * once
    if min = max then needed else needed + 32 + (max - min) * (choiceBytes 2 + once)

/-! ### Patterns -/

/-- The room of the states for a pattern, given the room for each of its alternatives. -/
def togetherBytes (reverse : Bool) (p : Pattern) (sizes : List Nat) : Nat :=
  match sizes with
  | [n] => n
  | sizes =>
    match p.words? with
    | some words =>
      let words := if reverse then words.map List.reverse else words
      32 + trieBytes (total (words.map List.length)) words
    | none => choiceBytes sizes.length + 32 + total sizes

/-- The room of the states for each alternative of a pattern. -/
def branchBytes (reverse : Bool) : Pattern → List Nat
  | .empty | .look _ => [32]
  | .chars c => [c.bytes reverse]
  -- only the program that reads forwards notes where a group starts and ends
  | .group _ p => [(if reverse then 0 else 64) + togetherBytes reverse p (p.branchBytes reverse)]
  | .seq p q =>
    [togetherBytes reverse p (p.branchBytes reverse) +
      togetherBytes reverse q (q.branchBytes reverse)]
  | .alt p q => p.branchBytes reverse ++ q.branchBytes reverse
  | .repeated _ min max p =>
    [repeatedBytes p min max (togetherBytes reverse p (p.branchBytes reverse))]

/-- The room of the states for a pattern. -/
def bytes (reverse : Bool) (p : Pattern) : Nat := togetherBytes reverse p (p.branchBytes reverse)

/-- Whether a pattern matches at one end of a text only: at the start of the text or, for the program
that reads backwards, at its end. -/
def isAnchored (reverse : Bool) : Pattern → Bool
  | .empty | .chars _ => false
  | .look l => l = if reverse then .textEnd else .textStart
  | .group _ p => p.isAnchored reverse
  | .seq p q =>
    if reverse then q.isAnchored true || (q.isEmptyOnly && p.isAnchored true)
    else p.isAnchored false || (p.isEmptyOnly && q.isAnchored false)
  | .alt p q => p.isAnchored reverse && q.isAnchored reverse
  | .repeated _ min _ p => 0 < min && p.isAnchored reverse

/-- The room of a whole program. It starts with a loop that passes over any bytes, unless the pattern
matches at one end only, and ends with a state for the match. -/
def programBytes (reverse : Bool) (p : Pattern) : Nat :=
  let start := if p.isAnchored reverse then 32 else choiceBytes 2 + readerBytes 1 + 32
  start + (if reverse then 0 else 64) + p.bytes reverse + 32

/-- Whether a pattern is refused for its size. A long list of words needs no program. -/
def isTooLarge (p : Pattern) : Bool :=
  let needsProgram := p.words?.all fun words => words.length < 3000
  needsProgram && (sizeLimit < p.programBytes false || sizeLimit < p.programBytes true)

end Pattern
end MailMerge.Regex
