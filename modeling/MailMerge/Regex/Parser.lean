import MailMerge.Regex.Bracket
import MailMerge.Unicode.Property

/-!
# Parsing patterns

`parse` turns the text of a pattern into an `Expr`, or names the first mistake, reading from left to
right. A stack holds the groups that are open. Each step reads one construct and passes at least one
character, so reading ends with the pattern. How deep constructs are nested is checked when all of
the pattern has been read.
-/

namespace MailMerge.Regex

/-- The alternatives read so far of a group or of the whole pattern. The last branch is still being
read; branches and items are kept last one first. -/
structure Level where
  /-- Where the first branch starts. -/
  start : Nat
  branches : List Expr
  /-- Where the last branch starts. -/
  branchStart : Nat
  items : List Expr

namespace Level

/-- Nothing read yet. -/
def new (offset : Nat) : Level := ⟨offset, [], offset, []⟩

def push (l : Level) (e : Expr) : Level := { l with items := e :: l.items }

/-- The branch being read, as an expression that ends at an offset. -/
def branch (l : Level) (stop : Nat) : Expr := .ofItems ⟨l.branchStart, stop⟩ l.items.reverse

/-- Ends a branch at a bar and starts the next one behind it. -/
def bar (l : Level) (offset : Nat) : Level :=
  ⟨l.start, l.branch offset :: l.branches, offset + 1, []⟩

/-- The whole, as an expression that ends at an offset. -/
def toExpr (l : Level) (stop : Nat) : Expr :=
  if l.branches.isEmpty then l.branch stop
  else .alternation ⟨l.start, stop⟩ (l.branch stop :: l.branches).reverse

end Level

/-- A group that is open, with what surrounds it. -/
structure OpenGroup where
  span : Span
  kind : GroupKind
  /-- The state of the `x` flag around the group. -/
  verbose : Bool
  outer : Level

/-- The state between two constructs. -/
structure ParseState where
  verbose : Bool
  level : Level
  groups : List OpenGroup
  /-- The group names given so far, and where. -/
  names : List (List Char × Span)
  /-- The number of the next group that captures. -/
  nextCapture : Nat

namespace ParseState

/-- The state before a pattern. -/
def initial : ParseState := ⟨false, .new 0, [], [], 1⟩

def push (st : ParseState) (e : Expr) : ParseState := { st with level := st.level.push e }

end ParseState

/-! ### Groups -/

/-- Whether a character may stand in the name of a group. -/
private def isNameChar (first : Bool) (c : Char) : Bool :=
  c = '_' || Unicode.alphabetic.contains c ||
    (!first && (c = '.' || c = '[' || c = ']' || Unicode.alphanumeric.contains c))

/-- Reads the name of a group up to `>`, the cursor being behind `<`. -/
private def readName (names : List (List Char × Span)) (c : Cursor) :
    Except Mistake (List Char × Span × Cursor) := do
  if c.atEnd then mistake .groupNameEnd c.here
  let first := (c.rest.take 1).takeWhile fun ch => ch ≠ '>' && isNameChar true ch
  -- a digit may begin no name, so the first character is taken by itself
  let more := (c.rest.drop first.length).takeWhile fun ch => ch ≠ '>' && isNameChar first.isEmpty ch
  let name := first ++ more
  let close := c.drop name.length
  match close.peek? with
  | none => mistake .groupNameEnd close.here
  | some '>' =>
    let span := close.since c.offset
    if name.isEmpty then mistake .groupNameEmpty span
    match names.find? (·.1 = name) with
    | some earlier => mistake (.groupNameDuplicate earlier.2) span
    | none => return (name, span, close.bump)
  | some _ => mistake .groupNameInvalid close.charSpan

private def flag? : Char → Option Flag
  | 'i' => some .caseInsensitive
  | 'm' => some .multiLine
  | 's' => some .dotMatchesNewLine
  | 'U' => some .swapGreed
  | 'u' => some .unicode
  | 'R' => some .crlf
  | 'x' => some .ignoreWhitespace
  | _ => none

/-- Reads flags up to `:` or `)`. The flags read so far are kept with their places, last one first;
the list recursed on is a bound on what is left. -/
private def readFlags : List Char → List (FlagItem × Span) → Cursor →
    Except Mistake (List (FlagItem × Span) × Cursor)
  | [], items, c => .ok (items, c)
  | _ :: bound, items, c =>
    match c.peek? with
    | none => mistake .flagEnd c.here
    | some ':' | some ')' => .ok (items, c)
    | some '-' =>
      match items.find? (·.1 = .minus) with
      | some earlier => mistake (.flagRepeatedNegation earlier.2) c.charSpan
      | none => next bound .minus items c
    | some ch =>
      match flag? ch with
      | none => mistake .flagUnrecognized c.charSpan
      | some f =>
        match items.find? (·.1 = .flag f) with
        | some earlier => mistake (.flagDuplicate earlier.2) c.charSpan
        | none => next bound (.flag f) items c
where
  next (bound : List Char) (item : FlagItem) (items : List (FlagItem × Span)) (c : Cursor) :
      Except Mistake (List (FlagItem × Span) × Cursor) :=
    if c.bump.atEnd then mistake .flagEnd c.bump.here
    else readFlags bound ((item, c.charSpan) :: items) c.bump

/-- Opens a group, or sets flags where a parenthesis only holds flags. -/
private def openGroup (st : ParseState) (c : Cursor) : Except Mistake (ParseState × Cursor) := do
  let span := c.charSpan
  -- a parenthesis with a question mark behind it is one of these, or holds flags or a name
  let inner := c.advance st.verbose
  for ahead in ["?=", "?!", "?<=", "?<!"] do
    if let some after := inner.eat? ahead then
      mistake .unsupportedLookAround (after.since span.start)
  let enter (kind : GroupKind) (verbose : Bool) (c : Cursor) : ParseState :=
    { st with
      verbose
      level := .new c.offset
      groups := ⟨span, kind, st.verbose, st.level⟩ :: st.groups }
  let capture (st : ParseState) : ParseState := { st with nextCapture := st.nextCapture + 1 }
  if let some named := (inner.eat? "?P<").or (inner.eat? "?<") then
    let (name, place, after) ← readName st.names named
    let entered := capture (enter (.capture st.nextCapture) st.verbose after)
    return ({ entered with names := (name, place) :: st.names }, after)
  else if let some flags := inner.eat? "?" then
    if flags.atEnd then mistake .groupUnclosed span
    let (items, close) ← readFlags flags.rest [] flags
    -- a minus at the end takes no flag back
    if let (.minus, place) :: _ := items then mistake .flagDanglingNegation place
    let settings := items.reverse.map (·.1)
    let verbose := (flagSetting .ignoreWhitespace settings).getD st.verbose
    let after := close.bump
    -- flags alone: they hold from here on, in the group around
    if close.peek? = some ')' then
      if items.isEmpty then mistake .repetitionMissing inner.here
      return ({ st with verbose }.push (.flags (after.since span.start) settings), after)
    else return (enter (.plain settings) verbose after, after)
  else return (capture (enter (.capture st.nextCapture) st.verbose inner), inner)

/-- Closes the innermost group, the cursor being at the parenthesis. -/
private def closeGroup (st : ParseState) (c : Cursor) : Except Mistake (ParseState × Cursor) :=
  match st.groups with
  | [] => mistake .groupUnopened c.charSpan
  | g :: groups =>
    let e := .group ⟨g.span.start, c.offset + 1⟩ g.kind (st.level.toExpr c.offset)
    .ok ({ st with verbose := g.verbose, level := g.outer.push e, groups }, c.bump)

/-! ### Repetitions

A repetition is written behind what it repeats, so the last item of the branch is taken back
and put into the repetition. Flags and what is empty cannot be repeated. -/

/-- Takes the expression that a repetition repeats from the branch being read. -/
private def operand (st : ParseState) (c : Cursor) : Except Mistake (Expr × ParseState) :=
  match st.level.items with
  | [] | .empty _ :: _ | .flags .. :: _ => mistake .repetitionMissing c.here
  | e :: items => .ok (e, { st with level := { st.level with items } })

/-- Reads `?`, `*` or `+`, and the `?` directly behind it that makes it lazy. -/
private def readOperator (st : ParseState) (min : Nat) (max : Option Nat) (c : Cursor) :
    Except Mistake (ParseState × Cursor) := do
  let (e, st) ← operand st c
  let isLazy := c.bump.peek? = some '?'
  let after := c.drop (if isLazy then 2 else 1)
  return (st.push (.repeated (after.since e.span.start) (!isLazy) min max e), after)

/-- The digits of a number; the list recursed on is a bound on what is left. -/
private def readDigits (verbose : Bool) : List Char → List Char → Cursor → List Char × Cursor
  | [], digits, c => (digits, c)
  | _ :: bound, digits, c =>
    match c.peek? with
    | some d =>
      if d.isDigit then readDigits verbose bound (digits ++ [d]) (c.advance verbose)
      else (digits, c)
    | none => (digits, c)

/-- Reads a number of at most 32 bits with white space around it. The cursor moves on even if there
is no number. -/
private def readCount (verbose : Bool) (c : Cursor) : Except Mistake Nat × Cursor :=
  let skip (c : Cursor) := c.drop (c.rest.takeWhile Text.isWhite).length
  let c := skip c
  let (digits, close) := readDigits verbose c.rest [] c
  let span := close.since c.offset
  -- white space directly behind the digits is passed in every mode, a comment only in verbose mode
  let after := if close.peek?.any Text.isWhite then (skip close).skipBlank verbose else close
  let value := digits.foldl (fun n d => n * 10 + (d.toNat - '0'.toNat)) 0
  let count :=
    if digits.isEmpty then mistake .repetitionCountEmpty span
    else if value < 0x100000000 then .ok value
    else mistake .decimalInvalid span
  (count, after)

/-- Reads a repetition with counts, the cursor being at the brace. -/
private def readCounted (st : ParseState) (c : Cursor) : Except Mistake (ParseState × Cursor) := do
  let start := c.offset
  let unclosed (c : Cursor) : Except Mistake Unit :=
    mistake .repetitionCountUnclosed (c.since start)
  let (e, st) ← operand st c
  let c := c.advance st.verbose
  if c.atEnd then unclosed c
  let (first, c) := readCount st.verbose c
  if c.atEnd then unclosed c
  let (min, max, close) ← counts first c unclosed
  if close.peek? ≠ some '}' then unclosed close
  let behind := close.advance st.verbose
  let isLazy := behind.peek? = some '?'
  let after := if isLazy then behind.bump else behind
  if max.any (· < min) then mistake .repetitionCountInvalid (after.since start)
  return (st.push (.repeated (after.since e.span.start) (!isLazy) min max e), after)
where
  /-- The bounds, once the first number is read: one number, or two around a comma, of which the
  second may be missing. -/
  counts (first : Except Mistake Nat) (c : Cursor) (unclosed : Cursor → Except Mistake Unit) :
      Except Mistake (Nat × Option Nat × Cursor) := do
    if c.peek? = some ',' then
      let close := c.advance st.verbose
      if close.atEnd then unclosed close
      let min ← first
      if close.peek? = some '}' then return (min, none, close)
      let (second, close) := readCount st.verbose close
      return (min, some (← second), close)
    else
      let count ← first
      return (count, some count, c)

/-! ### The whole pattern -/

/-- Reads one construct, which starts with the character `ch`. -/
def parseStep (st : ParseState) (ch : Char) (c : Cursor) :
    Except Mistake (ParseState × Cursor) :=
  match ch with
  | '(' => openGroup st c
  | ')' => closeGroup st c
  | '|' => .ok ({ st with level := st.level.bar c.offset }, c.bump)
  | '[' => (readClass st.verbose c).map fun (e, c) => (st.push e, c)
  | '?' => readOperator st 0 (some 1) c
  | '*' => readOperator st 0 none c
  | '+' => readOperator st 1 none c
  | '{' => readCounted st c
  | '\\' => (readEscape st.verbose c).map fun (e, c) => (st.push e, c)
  | '.' => .ok (st.push (.dot c.charSpan), c.bump)
  | '^' => .ok (st.push (.anchor c.charSpan .lineStart), c.bump)
  | '$' => .ok (st.push (.anchor c.charSpan .lineEnd), c.bump)
  | _ => .ok (st.push (.literal ⟨c.charSpan, ch, false⟩), c.bump)

/-- Reads on until the end of the pattern, where no group may be open. -/
def parseFrom (st : ParseState) (c : Cursor) : Except Mistake Expr :=
  let here := c.skipBlank st.verbose
  match _h : here.rest with
  | [] =>
    match st.groups with
    | [] => .ok (st.level.toExpr here.offset)
    | g :: _ => mistake .groupUnclosed g.span
  | ch :: _ =>
    match parseStep st ch here with
    | .error e => .error e
    | .ok (st, c) => parseFrom st (here.resume c)
termination_by c.rest.length
decreasing_by
  have := Cursor.length_resume_lt (c := here) ‹_› (by simp [_h])
  exact Nat.lt_of_lt_of_le this (Cursor.length_skipBlank_le _ _)

/-! ### Nesting

How deep an expression lies is the number of expressions around it that hold others. The
limit is on this depth, and the mistake is that of the first expression beyond it. -/

mutual

/-- The first class expression, in the order of reading, that lies too deep; `depth` is that of what
is around it. -/
def ClassExpr.tooDeep? (depth : Nat) : ClassExpr → Option Span
  | .bracketed span _ body =>
    if nestLimit ≤ depth then some span else body.tooDeep? (depth + 1)
  | .union span items =>
    if nestLimit ≤ depth then some span else ClassExpr.tooDeepIn? (depth + 1) items
  | .binary span _ lhs rhs =>
    if nestLimit ≤ depth then some span
    else (lhs.tooDeep? (depth + 1)).or (rhs.tooDeep? (depth + 1))
  | _ => none

/-- The first one in a list. -/
def ClassExpr.tooDeepIn? (depth : Nat) : List ClassExpr → Option Span
  | [] => none
  | e :: rest => (e.tooDeep? depth).or (ClassExpr.tooDeepIn? depth rest)

end

mutual

/-- The first expression, in the order of reading, that lies too deep. -/
def Expr.tooDeep? (depth : Nat) : Expr → Option Span
  | .bracketed span _ body => if nestLimit ≤ depth then some span else body.tooDeep? (depth + 1)
  | .repeated span _ _ _ body => if nestLimit ≤ depth then some span else body.tooDeep? (depth + 1)
  | .group span _ body => if nestLimit ≤ depth then some span else body.tooDeep? (depth + 1)
  | .alternation span items =>
    if nestLimit ≤ depth then some span else Expr.tooDeepIn? (depth + 1) items
  | .concat span items =>
    if nestLimit ≤ depth then some span else Expr.tooDeepIn? (depth + 1) items
  | _ => none

/-- The first one in a list. -/
def Expr.tooDeepIn? (depth : Nat) : List Expr → Option Span
  | [] => none
  | e :: rest => (e.tooDeep? depth).or (Expr.tooDeepIn? depth rest)

end

/-- The expression that a pattern writes, or the first mistake in it. -/
def parse (pattern : String) : Except Mistake Expr := do
  let e ← parseFrom .initial (.ofPattern pattern)
  match e.tooDeep? 0 with
  | some span => mistake .nestTooDeep span
  | none => return e

end MailMerge.Regex
