import MailMerge.Yaml.Scalar

/-!
# YAML tokens

A YAML text as a list of tokens. Indentation becomes visible in them: a block that is indented
further than the one around it starts with a token of its own and ends with one.

Whether a scalar is a key shows only when a colon follows it. Until then its place among the tokens
is remembered as a possible key, one for each level of brackets, and the tokens that make it a key
are put in front of it when the colon is found. A possible key must stand on one line and be short.
-/

namespace MailMerge.Yaml

/-- The tokens of a YAML text. -/
inductive Token where
  | versionDirective (major minor : Nat)
  | tagDirective (handle : List Char)
  | documentStart
  | documentEnd
  | blockSequenceStart
  | blockMappingStart
  | blockEnd
  | flowSequenceStart
  | flowSequenceEnd
  | flowMappingStart
  | flowMappingEnd
  | blockEntry
  | flowEntry
  | key
  | value
  | alias (name : List Char)
  | anchor (name : List Char)
  | tag (handle : List Char)
  | scalar (text : List Char)
  deriving DecidableEq, Repr

/-- A scalar or collection that is a key if a colon follows. `required` holds where nothing but a
key may stand. -/
structure PossibleKey where
  /-- The number of tokens before it. -/
  token : Nat
  required : Bool
  index : Nat
  line : Nat
  column : Nat

/-- How long a key may be. -/
def keyLimit : Nat := 1024

/-- The state between two tokens. -/
structure Scan where
  c : Cursor
  tokens : Array Token
  /-- The column of the innermost block, -1 outside of all blocks. -/
  indent : Int
  /-- The columns of the blocks around it. -/
  outer : List Int
  /-- Whether a key may start here. -/
  keyAllowed : Bool
  /-- The possible key of this level of brackets. -/
  key : Option PossibleKey
  /-- The possible keys of the levels around it; their number is the depth of the brackets. -/
  outerKeys : List (Option PossibleKey)

namespace Scan

/-- The state before a text. -/
def initial (text : List Char) : Scan :=
  { c := .ofText text, tokens := #[], indent := -1, outer := [], keyAllowed := true, key := none,
    outerKeys := [] }

def inFlow (s : Scan) : Bool := !s.outerKeys.isEmpty

/-- Adds a token and passes to a cursor behind it. -/
def emit (s : Scan) (t : Token) (c : Cursor) : Scan := { s with tokens := s.tokens.push t, c }

/-! ### Keys and blocks -/

/-- Forgets a possible key. One that is required must not be forgotten. -/
def dropKey? (s : Scan) : Option Scan :=
  if s.key.any (·.required) then none else some { s with key := none }

/-- Remembers the next token as a possible key, if a key may start here. -/
def saveKey? (s : Scan) : Option Scan :=
  if s.keyAllowed then do
    let s ← s.dropKey?
    -- where a line starts in the column of the block, only a key can begin
    let required := !s.inFlow && s.indent = s.c.column
    return { s with key := some ⟨s.tokens.size, required, s.c.index, s.c.line, s.c.column⟩ }
  else some s

/-- Whether a possible key is too long or on an earlier line. -/
def PossibleKey.isStale (c : Cursor) (k : PossibleKey) : Bool :=
  k.line < c.line || k.index + keyLimit < c.index

/-- Forgets the possible keys that the text read since rules out. -/
def dropStale? (s : Scan) : Option Scan :=
  let stale (k : Option PossibleKey) : Bool := k.any (PossibleKey.isStale s.c)
  -- a key that had to follow is missing
  if (s.key :: s.outerKeys).any fun k => stale k && k.any (·.required) then none
  else
    let keep (k : Option PossibleKey) : Option PossibleKey := if stale k then none else k
    some { s with key := keep s.key, outerKeys := s.outerKeys.map keep }

/-- Puts tokens in front of the token with a number. -/
def insertAt (tokens : Array Token) (n : Nat) (new : List Token) : Array Token :=
  tokens.extract 0 n ++ new.toArray ++ tokens.extract n tokens.size

/-- Starts a block at a column if it is indented further than the one around it. -/
def openBlock (s : Scan) (column : Nat) (start : Token) : Scan :=
  if !s.inFlow ∧ s.indent < column then
    { s with outer := s.indent :: s.outer, indent := column, tokens := s.tokens.push start }
  else s

/-- Ends blocks from the innermost one outwards; the list recursed on holds the columns around. -/
def closeBlocks (column : Int) (tokens : Array Token) (indent : Int) :
    List Int → Array Token × Int × List Int
  | [] => (tokens, indent, [])
  | up :: outer =>
    if column < indent then closeBlocks column (tokens.push .blockEnd) up outer
    else (tokens, indent, up :: outer)

/-- Ends the blocks that are indented further than a column. -/
def closeTo (s : Scan) (column : Int) : Scan :=
  if s.inFlow then s
  else
    let (tokens, indent, outer) := closeBlocks column s.tokens s.indent s.outer
    { s with tokens, indent, outer }

/-! ### Between tokens -/

/-- Passes blanks, comments and line breaks. A tab passes for a blank only where no key may start.
The list recursed on bounds how much is left. -/
def skipGapFrom : List Unit → Scan → Scan
  | [], s => s
  | _ :: bound, s =>
    let c :=
      s.c.skipWhile fun ch => ch = ' ' || ((s.inFlow || !s.keyAllowed) && ch = '\t')
    let c := if c.looksAt '#' then c.skipWhile (!isBreak ·) else c
    if c.atBreak then
      skipGapFrom bound { s with c := c.skipLine, keyAllowed := s.keyAllowed || !s.inFlow }
    else { s with c }

/-- Passes what stands between two tokens, and at the very start a byte order mark. -/
def skipGap (s : Scan) : Scan :=
  -- the mark is passed only at the very start, where it is no part of the text
  let c := if s.c.index = 0 ∧ s.c.looksAt '\uFEFF' then s.c.skip else s.c
  skipGapFrom (List.replicate (c.rest.length + 1) ()) { s with c }

/-! ### Directives, anchors and tags -/

/-- Reads a number of at most nine digits. -/
private def readVersionPart? (c : Cursor) : Option (Nat × Cursor) :=
  let digits := c.rest.takeWhile Char.isDigit
  if digits.isEmpty ∨ 9 < digits.length then none
  else some (digits.foldl (fun n d => n * 10 + (d.toNat - '0'.toNat)) 0, c.skipMany digits.length)

/-- Reads a handle: an exclamation mark, or a word between two. In a tag the second one may be
missing, which makes the word a part of what follows. -/
private def readHandle? (directive : Bool) (c : Cursor) : Option (List Char × Cursor) :=
  if c.looksAt '!' then
    let word := (c.skip).rest.takeWhile isWordChar
    let behind := c.skipMany (word.length + 1)
    if behind.looksAt '!' then some ('!' :: word ++ ['!'], behind.skip)
    else if directive ∧ word ≠ [] then none
    else some ('!' :: word, behind)
  else none

/-- The byte of an escape `%XX` at the start of a text. -/
private def uriByte? : List Char → Option (Nat × List Char)
  | '%' :: a :: b :: rest => do
    let a ← Unicode.hexDigit? a
    let b ← Unicode.hexDigit? b
    return (a * 16 + b, rest)
  | _ => none

/-- Passes `n` bytes that continue a character. -/
private def uriTail? : Nat → List Char → Option (List Char)
  | 0, cs => some cs
  | n + 1, cs => do
    let (b, rest) ← uriByte? cs
    if 0x80 ≤ b ∧ b < 0xC0 then uriTail? n rest else none

/-- The length of the escapes that write one character at the start of a text. -/
private def uriEscape? (cs : List Char) : Option Nat := do
  let (b, rest) ← uriByte? cs
  -- the first byte tells how many follow
  let more ←
    if b < 0x80 then some 0
    else if 0xC0 ≤ b ∧ b < 0xE0 then some 1
    else if 0xE0 ≤ b ∧ b < 0xF0 then some 2
    else if 0xF0 ≤ b ∧ b < 0xF8 then some 3
    else none
  let _ ← uriTail? more rest
  return 3 * (more + 1)

/-- Passes the characters of a tag; `full` admits commas and square brackets. The answer tells
whether there were any. The list recursed on bounds how much is left. -/
private def skipUri? (full : Bool) : List Unit → (any : Bool) → Cursor → Option (Bool × Cursor)
  | [], any, c => some (any, c)
  | _ :: bound, any, c =>
    match c.peek? with
    | some '%' => do
      let n ← uriEscape? c.rest
      skipUri? full bound true (c.skipMany n)
    | some ch =>
      if isWordChar ch || ";/?:@&=+$.!~*'()".toList.contains ch ||
          (full && [',', '[', ']'].contains ch) then
        skipUri? full bound true c.skip
      else some (any, c)
    | none => some (any, c)

private def readUri? (full : Bool) (c : Cursor) : Option (Bool × Cursor) :=
  skipUri? full (List.replicate c.rest.length ()) false c

/-- Reads a directive, the cursor being at the percent sign. -/
private def readDirective? (c : Cursor) : Option (Token × Cursor) := do
  let name := (c.skip).rest.takeWhile isWordChar
  let c := c.skipMany (name.length + 1)
  guard (c.blankAt 0)
  let c := c.skipWhile isBlank
  if name = ['Y', 'A', 'M', 'L'] then
    let (major, c) ← readVersionPart? c
    if c.looksAt '.' then
      let (minor, c) ← readVersionPart? c.skip
      return (.versionDirective major minor, ← c.skipToLineEnd?)
    else none
  else if name = ['T', 'A', 'G'] then
    let (handle, c) ← readHandle? true c
    -- behind the handle stands what it is short for
    if c.atBlank then
      let (found, c) ← readUri? true (c.skipWhile isBlank)
      if found ∧ c.blankAt 0 then return (.tagDirective handle, ← c.skipToLineEnd?) else none
    else none
  else none

/-- Reads the name of an anchor or alias, the cursor being at its mark. -/
private def readAnchor? (c : Cursor) : Option (List Char × Cursor) :=
  let name := (c.skip).rest.takeWhile isWordChar
  let c := c.skipMany (name.length + 1)
  if name ≠ [] ∧ (c.blankAt 0 ∨ c.looksAtAny ['?', ':', ',', ']', '}', '%', '@', '\x60']) then
    some (name, c)
  else none

/-- Reads a tag up to its end. The handle is empty where the tag is written out in full. -/
private def readTagBody? (c : Cursor) : Option (List Char × Cursor) := do
  if c.at? 1 = some '<' then
    let (found, c) ← readUri? true (c.skipMany 2)
    if found ∧ c.looksAt '>' then some ([], c.skip) else none
  else
    let (handle, c) ← readHandle? false c
    let (found, c) ← readUri? false c
    if 1 < handle.length ∧ handle.getLast? = some '!' then
      if found then some (handle, c) else none
    else
      -- a lone exclamation mark is a tag of its own and needs no handle
      some (if handle = ['!'] ∧ !found then [] else ['!'], c)

/-- Reads a tag and checks what stands behind it. -/
private def readTag? (inFlow : Bool) (c : Cursor) : Option (List Char × Cursor) := do
  let (handle, c) ← readTagBody? c
  if c.blankAt 0 ∨ (inFlow ∧ c.looksAt ',') then some (handle, c) else none

/-! ### Tokens -/

/-- The directive or document mark at a cursor. -/
private def documentToken? (s : Scan) (read : Cursor → Option (Token × Cursor)) : Option Scan := do
  let s ← (s.closeTo (-1)).dropKey?
  let (t, c) ← read s.c
  return { s with keyAllowed := false }.emit t c

/-- A token that may begin a key. -/
def keyToken? (s : Scan) (read : Cursor → Option (Token × Cursor)) : Option Scan := do
  let s ← s.saveKey?
  let (t, c) ← read s.c
  return { s with keyAllowed := false }.emit t c

def openFlow? (s : Scan) (t : Token) : Option Scan := do
  let s ← s.saveKey?
  -- inside of the brackets possible keys are looked for anew, and the one in front is kept
  let s := { s with key := none, outerKeys := s.key :: s.outerKeys, keyAllowed := true }
  return s.emit t s.c.skip

def closeFlow? (s : Scan) (t : Token) : Option Scan := do
  let s ← s.dropKey?
  let s :=
    match s.outerKeys with
    | [] => s
    | key :: outerKeys => { s with key, outerKeys }
  return { s with keyAllowed := false }.emit t s.c.skip

/-- A minus sign, question mark or colon that opens a block. In a block it may only stand where a
key may. -/
def indicator? (s : Scan) (start t : Token) (keyAllowed : Bool) : Option Scan := do
  guard (s.inFlow ∨ s.keyAllowed)
  let s ← (s.openBlock s.c.column start).dropKey?
  return { s with keyAllowed }.emit t s.c.skip

/-- A colon. If what stands before it may be a key it becomes one. -/
def value? (s : Scan) : Option Scan :=
  match s.key with
  | some k =>
    -- the key is the first of its block: the block begins in front of it
    let opens := !s.inFlow && decide (s.indent < k.column)
    let new := if opens then [.blockMappingStart, .key] else [.key]
    let s :=
      if opens then { s with outer := s.indent :: s.outer, indent := k.column } else s
    let s := { s with tokens := insertAt s.tokens k.token new, key := none, keyAllowed := false }
    some (s.emit .value s.c.skip)
  | none => indicator? s .blockMappingStart .value (!s.inFlow)

private def block? (s : Scan) (literal : Bool) : Option Scan := do
  let s ← s.dropKey?
  let (text, c) ← readBlock literal s.indent s.c
  return { s with keyAllowed := true }.emit (.scalar text) c

def quoted? (s : Scan) (single : Bool) : Option Scan :=
  keyToken? s fun c => (readQuoted single c).map fun (text, c) => (.scalar text, c)

def plain? (s : Scan) : Option Scan := do
  let s ← s.saveKey?
  let (text, broken, c) ← readPlain s.inFlow (s.indent + 1) s.c
  return { s with keyAllowed := broken }.emit (.scalar text) c

/-- Whether a plain scalar may start at a cursor. -/
def startsPlain (inFlow : Bool) (c : Cursor) : Bool :=
  match c.peek? with
  | none => false
  | some ch =>
    (!isBlank ch && !isBreak ch && !"-?:,[]\x7b\x7d#&*!|>'\"%@\x60".toList.contains ch) ||
      (ch = '-' && !(c.at? 1).any isBlank) ||
      (!inFlow && (ch = '?' || ch = ':') && !c.blankAt 1)

/-- Reads the next token, which starts with the character `ch`. -/
def next? (s : Scan) (ch : Char) : Option Scan :=
  let c := s.c
  -- a mark of a document is looked for before the characters it is made of
  if c.column = 0 ∧ ch = '%' then documentToken? s readDirective?
  else if c.atDocumentMark '-' then documentToken? s fun c => some (.documentStart, c.skipMany 3)
  else if c.atDocumentMark '.' then documentToken? s fun c => some (.documentEnd, c.skipMany 3)
  else if ch = '[' then openFlow? s .flowSequenceStart
  else if ch = '{' then openFlow? s .flowMappingStart
  else if ch = ']' then closeFlow? s .flowSequenceEnd
  else if ch = '}' then closeFlow? s .flowMappingEnd
  else if ch = ',' then do
    let s ← s.dropKey?
    return { s with keyAllowed := true }.emit .flowEntry c.skip
  else if ch = '-' ∧ c.blankAt 1 then indicator? s .blockSequenceStart .blockEntry true
  else if ch = '?' ∧ (s.inFlow ∨ c.blankAt 1) then
    indicator? s .blockMappingStart .key (!s.inFlow)
  else if ch = ':' ∧ (s.inFlow ∨ c.blankAt 1) then value? s
  else if ch = '*' then keyToken? s fun c => (readAnchor? c).map fun (n, c) => (.alias n, c)
  else if ch = '&' then keyToken? s fun c => (readAnchor? c).map fun (n, c) => (.anchor n, c)
  else if ch = '!' then keyToken? s fun c => (readTag? s.inFlow c).map fun (h, c) => (.tag h, c)
  else if ch = '|' ∧ !s.inFlow then block? s true
  else if ch = '>' ∧ !s.inFlow then block? s false
  else if ch = '\'' then quoted? s true
  else if ch = '"' then quoted? s false
  else if startsPlain s.inFlow c then plain? s
  else none

/-- Reads tokens up to the end of the text. Every token takes at least one character; what would not
is refused. -/
def run? (s : Scan) : Option (Array Token) :=
  match s.skipGap.dropStale? with
  | none => none
  | some here =>
    let here := here.closeTo here.c.column
    match here.c.rest with
    | [] => do
      let s ← (here.closeTo (-1)).dropKey?
      return s.tokens
    | ch :: _ =>
      match next? here ch with
      | none => none
      -- a token of no characters would be read again and again
      | some after => if after.c.rest.length < s.c.rest.length then run? after else none
termination_by s.c.rest.length

end Scan

/-- The tokens of a YAML text, unless it is malformed. -/
def tokens? (text : List Char) : Option (List Token) :=
  if text.all isPrintable then (Scan.run? (.initial text)).map Array.toList else none

end MailMerge.Yaml
