import MailMerge.Yaml.Cursor
import MailMerge.Unicode.Table

/-!
# YAML scalars

The texts of a YAML document in their five forms: plain, in single quotes, in double quotes, and as
literal or folded blocks. Lines within a scalar are folded: one line break becomes a blank, and of
several the first is dropped.

The readers recurse on a list that bounds how much is left to read, one member for each character.
-/

namespace MailMerge.Yaml

/-! ### Folding -/

/-- The blanks and line breaks read behind a word: blanks, as long as there was no line break, then
the first break and the further ones. Lists are kept last one first. -/
structure Gap where
  blanks : List Char
  broken : Bool
  first : List Char
  more : List Char

namespace Gap

/-- Nothing between two words. -/
def none : Gap := ⟨[], false, [], []⟩

/-- A gap that begins where a line break was escaped. -/
def escaped : Gap := ⟨[], true, [], []⟩

def blank (g : Gap) (c : Char) : Gap := if g.broken then g else { g with blanks := c :: g.blanks }

def line (g : Gap) (c : Char) : Gap :=
  if g.broken then { g with more := c :: g.more }
  else { blanks := [], broken := true, first := [c], more := [] }

/-- What the gap becomes in the text. -/
def text (g : Gap) : List Char :=
  if !g.broken then g.blanks.reverse
  else if g.first = ['\n'] then (if g.more.isEmpty then [' '] else g.more.reverse)
  else g.first ++ g.more.reverse

end Gap

/-! ### Plain scalars

A plain scalar ends where a mark of the surrounding text begins, which depends on what
stands behind it. Blanks and line breaks belong to it only if more of it follows, so they
are kept apart until then. -/

/-- Whether a plain scalar ends before the next character. In a flow, a colon before a bracket, a
comma or a question mark is refused. -/
def plainEnd? (inFlow : Bool) (c : Cursor) : Option Bool :=
  if inFlow ∧ c.looksAt ':' ∧ (c.at? 1).any [',', '?', '[', ']', '{', '}'].contains then
    Option.none
  else
    some ((c.looksAt ':' && c.blankAt 1) || (inFlow && c.looksAtAny [',', '[', ']', '{', '}']))

/-- Reads a plain scalar. `read` is what was read, last character first, and `gap` what stands
behind it. The answer tells whether the scalar ends behind a line break. -/
def readPlainFrom (inFlow : Bool) (indent : Int) :
    List Unit → (read : List Char) → Gap → Cursor → Option (List Char × Bool × Cursor)
  | [], _, _, _ => Option.none
  | _ :: bound, read, gap, c =>
    match c.peek? with
    | Option.none => some (read.reverse, gap.broken, c)
    | some ch =>
      if isBlank ch then
        -- a tab is no indentation
        if gap.broken ∧ c.column < indent ∧ ch = '\t' then Option.none
        else readPlainFrom inFlow indent bound read (gap.blank ch) c.skip
      else if isBreak ch then
        readPlainFrom inFlow indent bound read (gap.line c.breakChar) c.skipLine
      else
        let afterGap := gap.broken || !gap.blanks.isEmpty
        -- a further line that is not indented enough begins something else
        if afterGap ∧ ((!inFlow ∧ c.column < indent) ∨ c.atAnyMark ∨ ch = '#') then
          some (read.reverse, gap.broken, c)
        else
          match plainEnd? inFlow c with
          | Option.none => Option.none
          | some true => some (read.reverse, gap.broken, c)
          | some false =>
            readPlainFrom inFlow indent bound (ch :: (gap.text.reverse ++ read)) .none c.skip

/-- Reads a plain scalar whose further lines must be indented by `indent`. -/
def readPlain (inFlow : Bool) (indent : Int) (c : Cursor) : Option (List Char × Bool × Cursor) :=
  readPlainFrom inFlow indent (List.replicate (c.rest.length + 1) ()) [] .none c

/-! ### Quoted scalars -/

/-- The character that a letter behind a backslash stands for. -/
def escapeChar? : Char → Option Char
  | '0' => some '\x00'
  | 'a' => some '\x07'
  | 'b' => some '\x08'
  | 't' | '\t' => some '\t'
  | 'n' => some '\n'
  | 'v' => some '\x0B'
  | 'f' => some '\x0C'
  | 'r' => some '\r'
  | 'e' => some '\x1B'
  | ' ' => some ' '
  | '"' => some '"'
  | '/' => some '/'
  | '\\' => some '\\'
  | 'N' => some '\u0085'
  | '_' => some '\u00A0'
  | 'L' => some '\u2028'
  | 'P' => some '\u2029'
  | _ => Option.none

/-- The number of hexadecimal digits behind a letter that takes some. -/
def escapeDigits? : Char → Option Nat
  | 'x' => some 2
  | 'u' => some 4
  | 'U' => some 8
  | _ => Option.none

/-- The character that an escape at the cursor stands for, and its length. -/
def readEscape? (c : Cursor) : Option (Char × Nat) := do
  let letter ← c.at? 1
  match escapeDigits? letter with
  | Option.none => return (← escapeChar? letter, 2)
  | some n =>
    let digits := (c.rest.drop 2).take n
    if digits.length = n ∧ digits.all fun d => (Unicode.hexDigit? d).isSome then
      let code := Unicode.hexNumber digits
      if code.isValidChar then return (Char.ofNat code, n + 2) else Option.none
    else Option.none

/-- Reads a quoted scalar up to its closing quote. Within a word, `gap` is empty. -/
def readQuotedFrom (single : Bool) :
    List Unit → (read : List Char) → Gap → Cursor → Option (List Char × Cursor)
  | [], _, _, _ => Option.none
  | _ :: bound, read, gap, c =>
    if c.atAnyMark then Option.none
    else
      match c.peek? with
      | Option.none => Option.none
      | some ch =>
        let joined := gap.text.reverse ++ read
        if isBlank ch then readQuotedFrom single bound read (gap.blank ch) c.skip
        else if isBreak ch then
          readQuotedFrom single bound read (gap.line c.breakChar) c.skipLine
        else if single ∧ ch = '\'' ∧ c.at? 1 = some '\'' then
          readQuotedFrom single bound ('\'' :: joined) .none (c.skipMany 2)
        else if ch = (if single then '\'' else '"') then some (joined.reverse, c.skip)
        else if !single ∧ ch = '\\' then
          -- an escaped line break is nothing, and blanks behind it are none of the text
          if (c.at? 1).any isBreak then
            readQuotedFrom single bound joined .escaped c.skip.skipLine
          else
            match readEscape? c with
            | Option.none => Option.none
            | some (d, n) => readQuotedFrom single bound (d :: joined) .none (c.skipMany n)
        else readQuotedFrom single bound (ch :: joined) .none c.skip

/-- Reads a scalar in quotes, the cursor being at the opening quote. -/
def readQuoted (single : Bool) (c : Cursor) : Option (List Char × Cursor) :=
  readQuotedFrom single (List.replicate (c.rest.length + 1) ()) [] .none c.skip

/-! ### Block scalars

The lines of a block are told from what follows by their indentation, which is found from the first
lines unless it is given. The text of a line is taken as it is; only the breaks between the lines
may be folded. -/

/-- What to do with the line breaks at the end of a block. -/
inductive Chomping where
  | clip
  | strip
  | keep
  deriving DecidableEq, Repr

/-- Reads the marks behind the bar or angle bracket: the chomping and the indentation, in either
order. An indentation of zero is refused. -/
private def readHeader? (c : Cursor) : Option (Chomping × Nat × Cursor) :=
  let chomping (c : Cursor) : Chomping × Cursor :=
    if c.looksAt '+' then (.keep, c.skip)
    else if c.looksAt '-' then (.strip, c.skip)
    else (.clip, c)
  let digit? (c : Cursor) : Option (Nat × Cursor) :=
    match c.peek? with
    | some d =>
      if d = '0' then Option.none
      else if d.isDigit then some (d.toNat - '0'.toNat, c.skip)
      else some (0, c)
    | Option.none => some (0, c)
  if c.looksAtAny ['+', '-'] then do
    let (ch, c) := chomping c
    let (n, c) ← digit? c
    return (ch, n, c)
  else do
    let (n, c) ← digit? c
    let (ch, c) := if n = 0 then (.clip, c) else chomping c
    return (ch, n, c)

/-- Passes indentation and empty lines. `indent` is zero as long as it is not known; `widest` is the
widest indentation seen. The breaks passed are kept last one first. -/
private def readBreaksFrom (indent : Nat) :
    List Unit → (widest : Nat) → (breaks : List Char) → Cursor → Option (Nat × List Char × Cursor)
  | [], _, _, _ => Option.none
  | _ :: bound, widest, breaks, c =>
    let inside := indent = 0 ∨ c.column < indent
    -- within the indentation, or as long as it is not known, blanks are passed
    if inside ∧ c.looksAt ' ' then readBreaksFrom indent bound widest breaks c.skip
    else
      let widest := max widest c.column
      if inside ∧ c.looksAt '\t' then Option.none
      else if c.atBreak then
        readBreaksFrom indent bound widest (c.breakChar :: breaks) c.skipLine
      else some (widest, breaks, c)

/-- Passes indentation and empty lines, and finds the indentation of the block if it is not known.
-/
private def readBreaks (parent : Int) (indent : Nat) (c : Cursor) :
    Option (Nat × List Char × Cursor) := do
  let (widest, breaks, c) ←
    -- the widest line decides, but a block is indented further than what is around it
    readBreaksFrom indent (List.replicate (c.rest.length + 1) ()) 0 [] c
  let found := max (max widest (parent + 1).toNat) 1
  return (if indent = 0 then found else indent, breaks, c)

/-- The lines of a block read so far, last character first, with the break behind the last line, the
empty lines behind that, and whether the last line starts with a blank. -/
private structure Block where
  read : List Char
  lead : List Char
  trail : List Char
  blankLed : Bool

/-- The text of a block before its next line. In a folded block a single break between two lines
that do not start with a blank becomes a blank. -/
private def Block.joined (literal nextBlank : Bool) (b : Block) : List Char :=
  if !literal ∧ b.lead = ['\n'] ∧ !b.blankLed ∧ !nextBlank then
    if b.trail.isEmpty then ' ' :: b.read else b.trail ++ b.read
  else b.trail ++ b.lead ++ b.read

/-- Reads the lines of a block. -/
private def readLines (literal : Bool) (parent : Int) (indent : Nat) :
    List Unit → Block → Cursor → Option (Block × Cursor)
  | [], b, c => some (b, c)
  | _ :: bound, b, c =>
    if c.column = indent ∧ !c.rest.isEmpty then do
      -- what stands between this line and the one before is known only now
      let joined := b.joined literal c.atBlank
      let blankLed := c.atBlank
      let text := c.rest.takeWhile (!isBreak ·)
      let behind := c.skipMany text.length
      let lead := if behind.rest.isEmpty then [] else [behind.breakChar]
      let next := if behind.rest.isEmpty then behind else behind.skipLine
      let (_, trail, next) ← readBreaks parent indent next
      readLines literal parent indent bound ⟨text.reverse ++ joined, lead, trail, blankLed⟩ next
    else some (b, c)

/-- Reads a block scalar, the cursor being at the bar or angle bracket; `parent` is the indentation
around it. -/
def readBlock (literal : Bool) (parent : Int) (c : Cursor) : Option (List Char × Cursor) := do
  let (chomping, increment, c) ← readHeader? c.skip
  let c ← c.skipToLineEnd?
  let given := if increment = 0 then 0 else (max parent 0).toNat + increment
  let (indent, trail, c) ← readBreaks parent given c
  let (b, c) ← readLines literal parent indent (List.replicate (c.rest.length + 1) ())
    ⟨[], [], trail, false⟩ c
  -- the breaks at the end of the block are kept apart from its lines until here
  let tail :=
    match chomping with
    | .strip => []
    | .clip => b.lead
    | .keep => b.trail ++ b.lead
  return ((tail ++ b.read).reverse, c)

end MailMerge.Yaml
