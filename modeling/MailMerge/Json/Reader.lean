import MailMerge.Json.Error
import MailMerge.Record

/-!
# Reading rule sets in JSON

Reads one JSON object whose values are texts into a `Record`, or finds the first fault. A repeated
key keeps its first place and takes its last value.

Readers take the text that is left and give what they read and the text behind it. A fault is raised
with the text that is left at it; its line and column are counted, in bytes, from what lies before.
-/

namespace MailMerge.Json

open Decimal (Binary64)

/-- A fault, the text left where it was found, and how many bytes beyond that place it points. -/
structure Stop where
  fault : Fault
  rest : List Char
  beyond : Nat

/-- A fault at a place. -/
def stop (fault : Fault) (rest : List Char) : Except Stop α := .error ⟨fault, rest, 0⟩

/-- A fault at the next byte, which the place includes if there is one. -/
def stopNext (fault : Fault) (rest : List Char) : Except Stop α :=
  .error ⟨fault, rest, if rest.isEmpty then 0 else 1⟩

/-- Whether a character may stand between the tokens. -/
def isSpace (c : Char) : Bool := c = ' ' || c = '\n' || c = '\t' || c = '\r'

/-- The text behind the space at its start. -/
def skipSpace (cs : List Char) : List Char := cs.dropWhile isSpace

/-! ### Texts -/

/-- The number that four hexadecimal digits write. -/
def hex4? (a b c d : Char) : Option Nat := do
  let a ← Unicode.hexDigit? a
  let b ← Unicode.hexDigit? b
  let c ← Unicode.hexDigit? c
  let d ← Unicode.hexDigit? d
  return ((a * 16 + b) * 16 + c) * 16 + d

/-- Reads the four digits behind `\u`. Four bytes are taken for digits even if they are none. -/
def readHex4 : List Char → Except Stop (Nat × List Char)
  | cs@(a :: b :: c :: d :: rest) =>
    -- the four bytes may lie within fewer characters, so it is the bytes that are counted
    match hex4? a b c d with
    | some n => .ok (n, rest)
    | none => .error ⟨.invalidEscape, cs, 4⟩
  | cs => if (String.ofList cs).utf8ByteSize < 4 then stop .endInString []
    else .error ⟨.invalidEscape, cs, 4⟩

/-- Whether a code unit is the first of a pair. -/
def isLeading (n : Nat) : Bool := 0xD800 ≤ n && n ≤ 0xDBFF

/-- Whether a code unit is the second of a pair. -/
def isTrailing (n : Nat) : Bool := 0xDC00 ≤ n && n ≤ 0xDFFF

/-- The character of a pair of code units. -/
def ofPair (first second : Nat) : Char :=
  Char.ofNat (0x10000 + (first - 0xD800) * 0x400 + (second - 0xDC00))

/-- Reads the character behind `\u`: one code unit, or two that form a pair. -/
def readUnicode (cs : List Char) : Except Stop (Char × List Char) := do
  let (first, rest) ← readHex4 cs
  if isTrailing first then stop .loneSurrogate rest
  -- the first half of a pair is no character: the second half must follow, in an escape of its own
  else if isLeading first then
    match rest with
    | [] => stop .endInString []
    | '\\' :: rest =>
      match rest with
      | [] => stop .endInString []
      | 'u' :: rest =>
        let (second, rest) ← readHex4 rest
        if isTrailing second then return (ofPair first second, rest) else stop .loneSurrogate rest
      | _ => stopNext .surrogateEnd rest
    | _ => stopNext .surrogateEnd rest
  else return (Char.ofNat first, rest)

/-- The character that a letter behind a backslash stands for. -/
def escaped? : Char → Option Char
  | '"' => some '"'
  | '\\' => some '\\'
  | '/' => some '/'
  | 'b' => some '\x08'
  | 'f' => some '\x0C'
  | 'n' => some '\n'
  | 'r' => some '\r'
  | 't' => some '\t'
  | _ => none

/-- Reads what stands behind a backslash. -/
def readEscape : List Char → Except Stop (Char × List Char)
  | [] => stop .endInString []
  | 'u' :: rest => readUnicode rest
  | cs@(c :: rest) =>
    match escaped? c with
    | some d => .ok (d, rest)
    | none => stopNext .invalidEscape cs

theorem length_readHex4 {cs rest : List Char} {n : Nat} (h : readHex4 cs = .ok (n, rest)) :
    rest.length < cs.length := by
  unfold readHex4 at h
  split at h
  · split at h
    · simp only [Except.ok.injEq, Prod.mk.injEq] at h
      obtain ⟨-, rfl⟩ := h
      simp only [List.length_cons]; omega
    · simp at h
  · simp only [stop] at h
    split at h <;> simp at h

theorem length_readUnicode {cs rest : List Char} {c : Char} (h : readUnicode cs = .ok (c, rest)) :
    rest.length < cs.length := by
  unfold readUnicode at h
  simp only [bind, Except.bind, pure, Except.pure] at h
  split at h
  · simp at h
  · next p hp =>
    obtain ⟨first, behind⟩ := p
    have h1 := length_readHex4 hp
    simp only at h
    split at h
    · simp [stop] at h
    · split at h
      · split at h
        · simp [stop] at h
        · split at h
          · simp [stop] at h
          · split at h
            · simp at h
            · next q hq =>
              obtain ⟨second, last⟩ := q
              have h2 := length_readHex4 hq
              simp only at h
              split at h
              · simp only [Except.ok.injEq, Prod.mk.injEq] at h
                obtain ⟨-, rfl⟩ := h
                simp only [List.length_cons] at h1
                omega
              · simp [stop] at h
          · simp [stopNext] at h
        · simp [stopNext] at h
      · simp only [Except.ok.injEq, Prod.mk.injEq] at h
        obtain ⟨-, rfl⟩ := h
        exact h1

theorem length_readEscape {cs rest : List Char} {c : Char} (h : readEscape cs = .ok (c, rest)) :
    rest.length < cs.length := by
  unfold readEscape at h
  split at h
  · simp [stop] at h
  · have := length_readUnicode h
    simp only [List.length_cons]; omega
  · split at h
    · simp only [Except.ok.injEq, Prod.mk.injEq] at h
      obtain ⟨-, rfl⟩ := h
      simp
    · simp [stopNext] at h

/-- Reads a text up to its closing quote; `read` is what was read of it, last character first. -/
def readText (read : List Char) : List Char → Except Stop (List Char × List Char)
  | [] => stop .endInString []
  | '"' :: rest => .ok (read.reverse, rest)
  | '\\' :: rest =>
    match _h : readEscape rest with
    | .error e => .error e
    | .ok (c, rest) => readText (c :: read) rest
  | cs@(c :: rest) =>
    if c < ' ' then stopNext .controlCharacter cs else readText (c :: read) rest
termination_by cs => cs.length
decreasing_by
  · have := length_readEscape _h
    simp only [List.length_cons]; omega
  · simp

theorem length_readText {read cs s rest : List Char} (h : readText read cs = .ok (s, rest)) :
    rest.length < cs.length := by
  fun_induction readText read cs with
  | case1 => simp [stop] at h
  | case2 =>
    simp only [Except.ok.injEq, Prod.mk.injEq] at h
    obtain ⟨-, rfl⟩ := h
    simp
  | case3 => simp at h
  | case4 read rest c last heq ih =>
    have h1 := length_readEscape heq
    have h2 := ih h
    simp only [List.length_cons]; omega
  | case5 => simp [stopNext] at h
  | case6 read c rest _ _ _ ih =>
    have := ih h
    simp only [List.length_cons]; omega

/-! ### Numbers

A number is kept as it is written as long as it is whole and small enough. All others are
made of their digits, up to a limit, and a power of ten, and are rounded as the reader does
its steps. -/

/-- The largest whole number that is kept as it is. -/
def maxNatural : Nat := 0xFFFFFFFFFFFFFFFF

/-- The largest exponent that is kept as it is. -/
def maxExponent : Nat := 0x7FFFFFFF

def digitValue (c : Char) : Nat := c.toNat - '0'.toNat

/-- Appends digits to a number as long as it does not pass a limit, and gives the digits left. -/
def accumulate (limit : Nat) (n : Nat) : List Char → Nat × List Char
  | [] => (n, [])
  | d :: ds =>
    let next := n * 10 + digitValue d
    if limit < next then (n, d :: ds) else accumulate limit next ds

/-- Digits at the start of a text, and the text behind them. -/
def spanDigits (cs : List Char) : List Char × List Char := cs.span Char.isDigit

/-- Divides by the largest power of ten below the limit as often as a small exponent asks for. The
number of steps bounds them; a number that reaches zero stays there. -/
private def shrink : Nat → Binary64 → Nat → Binary64
  | 0, x, _ => x
  | n + 1, x, e =>
    if e ≤ 308 then x.div (.ofNat (Nat.pow 10 e))
    else if x.isZero then x
    else shrink n (x.div (.ofNat (Nat.pow 10 308))) (e - 308)

/-- The number `significand` · 10^`exponent`, rounded at each step, or nothing if it is too large.
-/
def ofParts (significand : Nat) (exponent : Int) : Option Binary64 :=
  let x := Binary64.ofNat significand
  if exponent < 0 then some (shrink 4 x exponent.natAbs)
  else if exponent ≤ 308 then
    match x.mul (.ofNat (Nat.pow 10 exponent.toNat)) with
    | .infinite => none
    | y => some y
  else if x.isZero then some x
  else none

/-- A number made of its parts, the text behind it being `rest`. -/
def finishNumber (isNegative : Bool) (significand : Nat) (exponent : Int)
    (rest : List Char) : Except Stop (Number × List Char) :=
  match ofParts significand exponent with
  | some x => .ok (.rounded isNegative x, rest)
  | none => stop .numberOutOfRange rest

/-- Reads the exponent behind an `e`. -/
def readExponent (isNegative : Bool) (significand : Nat) (exponent : Int)
    (cs : List Char) : Except Stop (Number × List Char) :=
  let (up, cs) :=
    match cs with
    | '+' :: rest => (true, rest)
    | '-' :: rest => (false, rest)
    | _ => (true, cs)
  match cs with
  | [] => stop .endInValue []
  | c :: _ =>
    if !c.isDigit then stopNext .invalidNumber cs
    else
      let (ds, rest) := spanDigits cs
      let (e, left) := accumulate maxExponent 0 ds
      if left.isEmpty then
        finishNumber isNegative significand (if up then exponent + e else exponent - e) rest
      -- the exponent itself is out of range: upwards that is a fault, unless the number is zero
      else if significand ≠ 0 ∧ up then stop .numberOutOfRange (left.drop 1 ++ rest)
      else .ok (.rounded isNegative (.finite 0 0), rest)

/-- Reads an exponent if there is one. -/
def readTail (isNegative : Bool) (significand : Nat) (exponent : Int) (cs : List Char) :
    Except Stop (Number × List Char) :=
  match cs with
  | 'e' :: rest | 'E' :: rest => readExponent isNegative significand exponent rest
  | _ => finishNumber isNegative significand exponent cs

/-- Reads the digits behind the point. Those beyond the limit are passed over. -/
def readFraction (isNegative : Bool) (significand : Nat) (exponent : Int)
    (cs : List Char) : Except Stop (Number × List Char) :=
  let (ds, rest) := spanDigits cs
  -- digits that are passed over make no part of the exponent
  let (significand, left) := accumulate maxNatural significand ds
  if ds.isEmpty then
    match rest with
    | [] => stop .endInValue []
    | _ => stopNext .invalidNumber rest
  else readTail isNegative significand (exponent - (ds.length - left.length : Nat)) rest

/-- Reads what stands behind the sign of a number. -/
def readNumber (isNegative : Bool) (cs : List Char) : Except Stop (Number × List Char) :=
  let (ds, rest) := spanDigits cs
  match ds with
  | [] =>
    match rest with
    | [] => stop .endInValue []
    | _ => stopNext .invalidNumber rest
  | '0' :: d :: ds => stopNext .invalidNumber (d :: ds ++ rest)
  | ds =>
    let (significand, left) := accumulate maxNatural 0 ds
    match rest with
    | '.' :: rest => readFraction isNegative significand left.length rest
    | 'e' :: rest | 'E' :: rest => readExponent isNegative significand left.length rest
    | _ =>
      if !left.isEmpty then finishNumber isNegative significand left.length rest
      else if !isNegative then .ok (.natural significand, rest)
      -- a negative zero, and what lies below the least number that is kept
      else if significand = 0 ∨ 0x8000000000000000 < significand then
        .ok (.rounded true (.ofNat significand), rest)
      else .ok (.negative significand, rest)

/-! ### Values of the wrong kind

A value of another kind than needed is read as far as is needed to tell what it is. A fault
in it comes first. -/

/-- Reads the rest of a word. -/
def readWord : List Char → List Char → Except Stop (List Char)
  | [], cs => .ok cs
  | _ :: _, [] => stop .endInValue []
  | w :: ws, cs@(c :: rest) => if c = w then readWord ws rest else stopNext .expectedWord cs

/-- Reads the value at the start of a text and finds what it is, to say that something else is
needed. The inside of an array or object is not read. -/
def readFound (cs : List Char) : Except Stop (Found × List Char) :=
  match cs with
  | 'n' :: rest => (readWord ['u', 'l', 'l'] rest).map (.null, ·)
  | 't' :: rest => (readWord ['r', 'u', 'e'] rest).map (.bool true, ·)
  | 'f' :: rest => (readWord ['a', 'l', 's', 'e'] rest).map (.bool false, ·)
  | '-' :: rest => (readNumber true rest).map fun (n, rest) => (.number n, rest)
  | '"' :: rest => (readText [] rest).map fun (s, rest) => (.text (String.ofList s), rest)
  | '[' :: _ => .ok (.array, cs)
  | '{' :: _ => .ok (.object, cs)
  | c :: _ =>
    if c.isDigit then (readNumber false cs).map fun (n, rest) => (.number n, rest)
    else stopNext .expectedValue cs
  | [] => stop .endInValue []

/-- The fault of a value that is not of the kind needed. -/
def wrongType (needed : Needed) (cs : List Char) : Except Stop α :=
  match readFound cs with
  | .error e => .error e
  | .ok (found, rest) => stop (.wrongType found needed) rest

/-! ### Objects

The members of an object are read in a loop: a comma, but not in front of the first one,
then a key, a colon and a value. Space may stand around each of them. -/

/-- Reads a text where a value of an object stands. -/
def readValue (cs : List Char) : Except Stop (List Char × List Char) :=
  match skipSpace cs with
  | [] => stop .endInValue []
  | '"' :: rest => readText [] rest
  | cs => wrongType .text cs

/-- Reads a key behind its opening quote, the colon, and the value. -/
def readMember (cs : List Char) : Except Stop ((List Char × List Char) × List Char) := do
  let (key, rest) ← readText [] cs
  match skipSpace rest with
  | [] => stop .endInObject []
  | ':' :: rest =>
    let (value, rest) ← readValue rest
    return ((key, value), rest)
  | cs => stopNext .expectedColon cs

/-- Finds the next key: the text behind its opening quote, or the end of the object. -/
def nextKey (isFirst : Bool) (cs : List Char) : Except Stop (Option (List Char) × List Char) :=
  match skipSpace cs with
  | [] => stop .endInObject []
  | '}' :: rest => .ok (none, rest)
  | cs@(c :: rest) =>
    if isFirst then
      if c = '"' then .ok (some rest, rest) else stopNext .keyMustBeText cs
    else if c = ',' then
      match skipSpace rest with
      -- behind a comma there must be a key, and no end
      | [] => stop .endInValue []
      | '"' :: rest => .ok (some rest, rest)
      | cs@('}' :: _) => stopNext .trailingComma cs
      | cs => stopNext .keyMustBeText cs
    else stopNext .expectedCommaOrEnd cs

theorem length_skipSpace_le (cs : List Char) : (skipSpace cs).length ≤ cs.length :=
  (List.dropWhile_suffix _).length_le

private theorem length_wrongType {needed : Needed} {cs s rest : List Char}
    (h : wrongType needed cs = .ok (s, rest)) : rest.length < cs.length := by
  unfold wrongType at h
  split at h <;> simp [stop] at h

theorem length_readValue {cs s rest : List Char} (h : readValue cs = .ok (s, rest)) :
    rest.length < cs.length := by
  have hle := length_skipSpace_le cs
  unfold readValue at h
  split at h
  · simp [stop] at h
  · next heq =>
    rw [heq] at hle
    have := length_readText h
    simp only [List.length_cons] at hle
    omega
  · have := length_wrongType h
    omega

theorem length_readMember {cs rest : List Char} {m : List Char × List Char}
    (h : readMember cs = .ok (m, rest)) : rest.length < cs.length := by
  unfold readMember at h
  simp only [bind, Except.bind, pure, Except.pure] at h
  split at h
  · simp at h
  · next p hp =>
    obtain ⟨key, behind⟩ := p
    have h1 := length_readText hp
    have hle := length_skipSpace_le behind
    simp only at h
    split at h
    · simp [stop] at h
    · next heq =>
      rw [heq] at hle
      split at h
      · simp at h
      · next q hq =>
        obtain ⟨value, last⟩ := q
        have h2 := length_readValue hq
        simp only [Except.ok.injEq, Prod.mk.injEq] at h
        obtain ⟨-, rfl⟩ := h
        simp only [List.length_cons] at hle
        omega
    · simp [stopNext] at h

theorem length_nextKey {isFirst : Bool} {cs key rest : List Char}
    (h : nextKey isFirst cs = .ok (some key, rest)) : key.length < cs.length := by
  have hle := length_skipSpace_le cs
  unfold nextKey at h
  split at h
  · simp [stop] at h
  · simp at h
  · next c behind _ heq =>
    rw [heq] at hle
    simp only [List.length_cons] at hle
    split at h
    · split at h
      · simp only [Except.ok.injEq, Prod.mk.injEq, Option.some.injEq] at h
        obtain ⟨rfl, -⟩ := h
        omega
      · simp [stopNext] at h
    · split at h
      · have hle' := length_skipSpace_le behind
        split at h
        · simp [stop] at h
        · next heq' =>
          rw [heq'] at hle'
          simp only [Except.ok.injEq, Prod.mk.injEq, Option.some.injEq] at h
          obtain ⟨rfl, -⟩ := h
          simp only [List.length_cons] at hle'
          omega
        · simp [stopNext] at h
        · simp [stopNext] at h
      · simp [stopNext] at h

/-- Reads the members of an object behind its brace, adding them to a record. -/
def readMembers (isFirst : Bool) (r : Record) (cs : List Char) :
    Except Stop (Record × List Char) :=
  match _hk : nextKey isFirst cs with
  | .error e => .error e
  | .ok (none, rest) => .ok (r, rest)
  | .ok (some key, _) =>
    match _hm : readMember key with
    | .error e => .error e
    | .ok ((name, value), rest) =>
      readMembers false (r.insert (String.ofList name) (String.ofList value)) rest
termination_by cs.length
decreasing_by
  have := length_nextKey _hk
  have := length_readMember _hm
  omega

/-- Reads a text that is one object of texts, with nothing behind it. -/
def readObject (cs : List Char) : Except Stop Record := do
  match skipSpace cs with
  | [] => stop .endInValue []
  | '{' :: rest =>
    let (r, rest) ← readMembers true .empty rest
    let behind := skipSpace rest
    if behind.isEmpty then return r else stopNext .trailingCharacters behind
  | cs => wrongType .object cs

/-! ### Places -/

/-- The line and column of a place, counted in bytes. -/
def placeOf (before : List UInt8) : Nat × Nat :=
  (1 + before.count 0x0A, (before.reverse.takeWhile (· ≠ 0x0A)).length)

/-- A fault with its place in a text. -/
def Stop.toError (text : String) (s : Stop) : Error :=
  let bytes := text.toUTF8.toList
  let (line, column) :=
    placeOf (bytes.take (bytes.length - (String.ofList s.rest).utf8ByteSize + s.beyond))
  ⟨s.fault, line, column⟩

/-- The rules that a text writes in JSON. -/
def parse (text : String) : Except Error Record :=
  match readObject text.toList with
  | .ok r => .ok r
  | .error s => .error (s.toError text)

end MailMerge.Json
