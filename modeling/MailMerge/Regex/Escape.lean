import MailMerge.Regex.Cursor
import MailMerge.Unicode.Table

/-!
# Escapes

What a backslash introduces: a character with a special meaning taken literally, a character by its
number, a class, or an anchor. Each reader starts behind the backslash; `start` is the place of the
backslash itself, with which the spans of escapes begin.
-/

namespace MailMerge.Regex

/-- The characters that mean something in a pattern. -/
def isMeta (c : Char) : Bool := "\\.+*?()|[]\x7b\x7d^$#&-~".toList.contains c

/-- The characters that mean themselves behind a backslash: all seven-bit characters but letters,
digits and the two angle brackets. -/
def isEscapable (c : Char) : Bool :=
  isMeta c || (c.toNat < 128 && !c.isAlphanum && c ≠ '<' && c ≠ '>')

/-- The character with a number. -/
def charOfNat? (n : Nat) : Option Char := if n.isValidChar then some (Char.ofNat n) else none

/-! ### Characters by number -/

/-- Exactly `n` hexadecimal digits. -/
private def readHexFixed (verbose : Bool) :
    Nat → List Char → Cursor → Except Mistake (List Char × Cursor)
  | 0, digits, c => .ok (digits, c)
  | n + 1, digits, c =>
    match c.peek? with
    | none => mistake .escapeEnd c.here
    | some d =>
      if (Unicode.hexDigit? d).isSome then
        readHexFixed verbose n (digits ++ [d]) (c.advance verbose)
      else mistake .hexInvalidDigit c.charSpan

/-- Hexadecimal digits up to a closing brace; the list recursed on is a bound on what is left. -/
private def readHexBraced (verbose : Bool) (brace : Nat) :
    List Char → List Char → Cursor → Except Mistake (List Char × Cursor)
  | [], _, c => mistake .escapeEnd (c.since brace)
  | _ :: bound, digits, c =>
    match c.peek? with
    | none => mistake .escapeEnd (c.since brace)
    | some '}' => .ok (digits, c)
    | some d =>
      if (Unicode.hexDigit? d).isSome then
        readHexBraced verbose brace bound (digits ++ [d]) (c.advance verbose)
      else mistake .hexInvalidDigit c.charSpan

/-- A character by its number in hexadecimal, the cursor being at the letter `x`, `u` or `U`, which
stands for two, four or eight digits where there are no braces. -/
private def readHex (verbose : Bool) (start : Nat) (letter : Char) (c : Cursor) :
    Except Mistake (Literal × Cursor) := do
  let c := c.advance verbose
  match c.peek? with
  | none => mistake .escapeEnd c.here
  | some '{' =>
    let first := c.offset + 1
    let (digits, close) ← readHexBraced verbose c.offset ('}' :: c.rest) [] (c.advance verbose)
    let after := close.advance verbose
    if digits.isEmpty then mistake .hexEmpty (after.since c.offset)
    else
      match charOfNat? (Unicode.hexNumber digits) with
      | none => mistake .hexInvalid ⟨first, close.offset⟩
      | some char => return (⟨after.since start, char, false⟩, after)
  | some _ =>
    let count := if letter = 'x' then 2 else if letter = 'u' then 4 else 8
    let (digits, after) ← readHexFixed verbose count [] c
    match charOfNat? (Unicode.hexNumber digits) with
    | none => mistake .hexInvalid (after.since c.offset)
    | some char => return (⟨after.since start, char, letter = 'x'⟩, after)

/-! ### Properties -/

/-- The text up to a closing brace; the list recursed on is a bound on what is left. -/
private def readBraced (verbose : Bool) :
    List Char → List Char → Cursor → Except Mistake (List Char × Cursor)
  | [], _, c => mistake .escapeEnd c.here
  | _ :: bound, name, c =>
    match c.peek? with
    | none => mistake .escapeEnd c.here
    | some '}' => .ok (name, c)
    | some d => readBraced verbose bound (name ++ [d]) (c.advance verbose)

/-- The two sides of the first place where a separator stands. -/
def cutAt (sep : List Char) : List Char → Option (List Char × List Char)
  | [] => none
  | c :: rest =>
    if sep.isPrefixOf (c :: rest) then some ([], (c :: rest).drop sep.length)
    else (cutAt sep rest).map fun (a, b) => (c :: a, b)

/-- A name, or a name and a value joined by `!=`, `:` or `=`. How they are joined makes no
difference; only `\P` asks for the characters outside of a property. -/
def PropertyQuery.ofText (text : List Char) : PropertyQuery :=
  match ((cutAt ['!', '='] text).or (cutAt [':'] text)).or (cutAt ['='] text) with
  | some (name, value) => .valued (String.ofList name) (String.ofList value)
  | none => .named (String.ofList text)

/-- A property, the cursor being at the letter `p` or `P`. -/
private def readProperty (verbose : Bool) (start : Nat) (negated : Bool) (c : Cursor) :
    Except Mistake (Expr × Cursor) := do
  let c := c.advance verbose
  match c.peek? with
  | none => mistake .escapeEnd c.here
  | some '{' =>
    let (name, close) ← readBraced verbose c.rest [] (c.advance verbose)
    let after := close.bump
    return (.property (after.since start) negated (.ofText name), after)
  | some '\\' => mistake .unicodeClassInvalid c.charSpan
  | some letter =>
    let after := c.advance verbose
    return (.property (after.since start) negated (.named (String.singleton letter)), after)

/-! ### Word boundaries with a name -/

private def isBoundaryChar (c : Char) : Bool := c.isAlpha || c = '-'

/-- The name of a word boundary; the list recursed on is a bound on what is left. -/
private def readBoundaryName (verbose : Bool) : List Char → List Char → Cursor → List Char × Cursor
  | [], name, c => (name, c)
  | _ :: bound, name, c =>
    match c.peek? with
    | some d =>
      if isBoundaryChar d then readBoundaryName verbose bound (name ++ [d]) (c.advance verbose)
      else (name, c)
    | none => (name, c)

/-- The part in braces that may stand behind `\b`, the cursor being at the brace. A brace that no
letter or minus sign follows belongs to a repetition and is left alone. -/
private def readBoundary? (verbose : Bool) (start : Nat) (c : Cursor) :
    Except Mistake (Option Anchor × Cursor) := do
  let inner := c.advance verbose
  match inner.peek? with
  | none => mistake .wordBoundaryOrCountEnd (inner.since start)
  | some d =>
    if !isBoundaryChar d then return (none, c)
    let (name, close) := readBoundaryName verbose inner.rest [] inner
    if close.peek? ≠ some '}' then mistake .wordBoundaryUnclosed (close.since c.offset)
    else
      match String.ofList name with
      | "start" => return (some .wordStart, close.bump)
      | "end" => return (some .wordEnd, close.bump)
      | "start-half" => return (some .wordStartHalf, close.bump)
      | "end-half" => return (some .wordEndHalf, close.bump)
      | _ => mistake .wordBoundaryUnknown (close.since inner.offset)

/-! ### All escapes -/

/-- The characters that are written as a letter behind a backslash. -/
private def controlChar? : Char → Option Char
  | 'a' => some '\x07'
  | 'f' => some '\x0C'
  | 't' => some '\t'
  | 'n' => some '\n'
  | 'r' => some '\r'
  | 'v' => some '\x0B'
  | _ => none

private def anchor? : Char → Option Anchor
  | 'A' => some .textStart
  | 'z' => some .textEnd
  | 'B' => some .notWordBoundary
  | '<' => some .wordStart
  | '>' => some .wordEnd
  | _ => none

private def shortClass? : Char → Option (Bool × ShortClass)
  | 'd' => some (false, .digit)
  | 's' => some (false, .space)
  | 'w' => some (false, .word)
  | 'D' => some (true, .digit)
  | 'S' => some (true, .space)
  | 'W' => some (true, .word)
  | _ => none

/-- Reads an escape, the cursor being at the backslash. -/
def readEscape (verbose : Bool) (c : Cursor) : Except Mistake (Expr × Cursor) := do
  let start := c.offset
  let c := c.bump
  match c.peek? with
  | none => mistake .escapeEnd (c.since start)
  | some ch =>
    let after := c.bump
    let span := after.since start
    if ch.isDigit then mistake .unsupportedBackreference span
    else if ch = 'x' || ch = 'u' || ch = 'U' then
      let (lit, after) ← readHex verbose start ch c
      return (.literal lit, after)
    else if ch = 'p' || ch = 'P' then readProperty verbose start (ch = 'P') c
    else if ch = 'b' then
      if after.peek? = some '{' then
        let (found, behind) ← readBoundary? verbose start after
        match found with
        | some a => return (.anchor (behind.since start) a, behind)
        | none => return (.anchor span .wordBoundary, after)
      else return (.anchor span .wordBoundary, after)
    else if isEscapable ch then return (.literal ⟨span, ch, false⟩, after)
    else
      match shortClass? ch, controlChar? ch, anchor? ch with
      | some (negated, cls), _, _ => return (.short span negated cls, after)
      | none, some control, _ => return (.literal ⟨span, control, false⟩, after)
      | none, none, some a => return (.anchor span a, after)
      | none, none, none => mistake .escapeUnrecognized span

end MailMerge.Regex
