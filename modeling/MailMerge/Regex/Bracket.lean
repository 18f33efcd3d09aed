import MailMerge.Regex.Escape

/-!
# Classes in brackets

Reads `[…]`: characters, ranges, escapes, named classes such as `[:alpha:]`, classes in classes, and
the operations `&&`, `--` and `~~` between them. Reading keeps a stack of the classes that are open;
each step passes at least one character, so that it ends with the pattern.
-/

namespace MailMerge.Regex

/-- The members of a class that were read so far, last one first. -/
structure Members where
  start : Nat
  items : List ClassExpr

namespace Members

def push (m : Members) (item : ClassExpr) : Members := { m with items := item :: m.items }

/-- The members as one expression, covering the first to the last. -/
def toExpr (m : Members) : ClassExpr :=
  let items := m.items.reverse
  let first := (items.head?.map (·.span.start)).getD m.start
  let last := (m.items.head?.map (·.span.stop)).getD m.start
  .ofItems ⟨first, last⟩ items

end Members

/-- What waits while a class is read. -/
inductive ClassFrame where
  /-- A class that is open, with the characters that opened it, and the members read before it in
  the class around it. -/
  | opened (outer : Members) (span : Span) (negated : Bool)
  /-- The left side of an operation. -/
  | operand (op : ClassOp) (lhs : ClassExpr)

/-- The outcome of a step: reading goes on, or the outermost class is closed. -/
inductive ClassStep where
  | more (stack : List ClassFrame) (members : Members) (c : Cursor)
  | done (e : Expr) (c : Cursor)

/-- Completes the operation on top of the stack with its right side, if there is one. -/
private def completeOp (rhs : ClassExpr) : List ClassFrame → ClassExpr × List ClassFrame
  | .operand op lhs :: stack => (.binary ⟨lhs.span.start, rhs.span.stop⟩ op lhs rhs, stack)
  | stack => (rhs, stack)

/-- The mistake of a class that is never closed points at the innermost opening. -/
private def unclosed (stack : List ClassFrame) : Except Mistake α :=
  mistake .classUnclosed <| (stack.findSome? fun
    | .opened _ span _ => some span
    | .operand .. => none).getD ⟨0, 0⟩

/-- The minus signs at the start of a class stand for themselves; the list recursed on is a bound on
what is left. -/
private def readDashes (verbose : Bool) (start : Nat) :
    List Char → Members → Cursor → Except Mistake (Members × Cursor)
  | [], m, c => .ok (m, c)
  | _ :: bound, m, c =>
    if c.peek? = some '-' then
      let m := m.push (.literal ⟨c.charSpan, '-', false⟩)
      let c := c.advance verbose
      if c.atEnd then mistake .classUnclosed ⟨start, start⟩ else readDashes verbose start bound m c
    else .ok (m, c)

/-- Reads the opening of a class: the bracket, `^`, minus signs, and a `]` that comes first. -/
private def readOpening (verbose : Bool) (c : Cursor) :
    Except Mistake (Span × Bool × Members × Cursor) := do
  let start := c.offset
  let c := c.advance verbose
  if c.atEnd then mistake .classUnclosed (c.since start)
  let negated := c.peek? = some '^'
  let c := if negated then c.advance verbose else c
  if c.atEnd then mistake .classUnclosed (c.since start)
  let (m, c) ← readDashes verbose start c.rest ⟨c.offset, []⟩ c
  if m.items.isEmpty ∧ c.peek? = some ']' then
    let m := m.push (.literal ⟨c.charSpan, ']', false⟩)
    let c := c.advance verbose
    if c.atEnd then mistake .classUnclosed (c.since start)
    return (c.since start, negated, m, c)
  return (c.since start, negated, m, c)

/-- The class with a name. -/
def NamedClass.ofName? : String → Option NamedClass
  | "alnum" => some .alnum
  | "alpha" => some .alpha
  | "ascii" => some .ascii
  | "blank" => some .blank
  | "cntrl" => some .cntrl
  | "digit" => some .digit
  | "graph" => some .graph
  | "lower" => some .lower
  | "print" => some .print
  | "punct" => some .punct
  | "space" => some .space
  | "upper" => some .upper
  | "word" => some .word
  | "xdigit" => some .xdigit
  | _ => none

/-- Reads `[:name:]` or `[:^name:]`; anything else is no named class. -/
private def readNamed? (c : Cursor) : Option (ClassExpr × Cursor) := do
  let inner ← c.eat? "[:"
  let negated := inner.peek? = some '^'
  let inner := if negated then inner.bump else inner
  let name := inner.rest.takeWhile (· ≠ ':')
  let after ← (inner.drop name.length).eat? ":]"
  let cls ← NamedClass.ofName? (String.ofList name)
  return (.named (after.since c.offset) negated cls, after)

/-- One character or escape in a class. -/
private def readItem (verbose : Bool) (c : Cursor) : Except Mistake (Expr × Cursor) :=
  match c.peek? with
  | some '\\' => readEscape verbose c
  | some ch => .ok (.literal ⟨c.charSpan, ch, false⟩, c.bump)
  | none => mistake .classUnclosed c.here

/-- An escape as a member of a class; anchors cannot be members. -/
private def toMember : Expr → Except Mistake ClassExpr
  | .literal lit => .ok (.literal lit)
  | .short span negated cls => .ok (.short span negated cls)
  | .property span negated query => .ok (.property span negated query)
  | e => mistake .classEscapeInvalid e.span

/-- An escape as an end of a range; only single characters can be. -/
private def toBound : Expr → Except Mistake Literal
  | .literal lit => .ok lit
  | e => mistake .classRangeLiteral e.span

/-- Reads a member of a class or a range of characters. -/
private def readMember (verbose : Bool) (stack : List ClassFrame) (c : Cursor) :
    Except Mistake (ClassExpr × Cursor) := do
  let (first, behind) ← readItem verbose c
  let c := behind.skipBlank verbose
  if c.atEnd then unclosed stack
  let next := c.peekPast? verbose
  if c.peek? ≠ some '-' ∨ next = some ']' ∨ next = some '-' then
    return (← toMember first, c)
  let c := c.advance verbose
  if c.atEnd then unclosed stack
  let (last, c) ← readItem verbose c
  let lo ← toBound first
  let hi ← toBound last
  let span : Span := ⟨lo.span.start, hi.span.stop⟩
  if hi.char < lo.char then mistake .classRangeInvalid span
  return (.range span lo hi, c)

/-- One step of reading a class, at the character `ch`. -/
private def classStep (verbose : Bool) (stack : List ClassFrame) (m : Members) (ch : Char)
    (c : Cursor) : Except Mistake ClassStep := do
  let operate (op : ClassOp) : ClassStep :=
    let (lhs, rest) := completeOp m.toExpr stack
    let c := c.drop 2
    .more (.operand op lhs :: rest) ⟨c.offset, []⟩ c
  if ch = '[' then
    if let some (item, c) := readNamed? c then return .more stack (m.push item) c
    let (span, negated, members, c) ← readOpening verbose c
    return .more (.opened m span negated :: stack) members c
  else if ch = ']' then
    let (body, rest) := completeOp m.toExpr stack
    match rest with
    | .opened _ span negated :: [] =>
      return .done (.bracketed ⟨span.start, c.offset + 1⟩ negated body) c.bump
    | .opened outer span negated :: stack =>
      return .more stack (outer.push (.bracketed ⟨span.start, c.offset + 1⟩ negated body)) c.bump
    | _ => unclosed rest
  else if (c.eat? "&&").isSome then return operate .intersection
  else if (c.eat? "--").isSome then return operate .difference
  else if (c.eat? "~~").isSome then return operate .symmetricDifference
  else
    let (item, c) ← readMember verbose stack c
    return .more stack (m.push item) c

/-- Reads on until the outermost class is closed. -/
private def readClassFrom (verbose : Bool) (stack : List ClassFrame) (m : Members) (c : Cursor) :
    Except Mistake (Expr × Cursor) :=
  let here := c.skipBlank verbose
  match _h : here.rest with
  | [] => unclosed stack
  | ch :: _ =>
    match classStep verbose stack m ch here with
    | .error e => .error e
    | .ok (.done e c) => .ok (e, c)
    | .ok (.more stack m c) => readClassFrom verbose stack m (here.resume c)
termination_by c.rest.length
decreasing_by
  have := Cursor.length_resume_lt (c := here) ‹_› (by simp [_h])
  exact Nat.lt_of_lt_of_le this (Cursor.length_skipBlank_le verbose _)

/-- Reads a class, the cursor being at its bracket. -/
def readClass (verbose : Bool) (c : Cursor) : Except Mistake (Expr × Cursor) := do
  let (span, negated, members, after) ← readOpening verbose c
  readClassFrom verbose [.opened ⟨c.offset, []⟩ span negated] members after

end MailMerge.Regex
