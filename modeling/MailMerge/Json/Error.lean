import MailMerge.Decimal.Shortest
import MailMerge.Text.Quoted

/-!
# What can be wrong with a rule set in JSON

A rule set in JSON is an object whose values are texts. Reading stops at the first fault. A fault is
either one of form, so that the text is no JSON at all, or one of type: a value of another kind
stands where an object or a text is needed.

    invalid type: integer `1`, expected a string at line 1 column 7
-/

namespace MailMerge.Json

open Decimal (Binary64)

/-- A number as it is read: whole numbers of at most 64 bits are kept, all others are rounded. -/
inductive Number where
  | natural (n : Nat)
  /-- The negative of a whole number. -/
  | negative (n : Nat)
  | rounded (isNegative : Bool) (x : Binary64)
  deriving DecidableEq, Repr

/-- What was found where something else is needed. -/
inductive Found where
  | null
  | bool (b : Bool)
  | number (n : Number)
  | text (s : String)
  | array
  | object
  deriving DecidableEq, Repr

/-- What is needed. -/
inductive Needed where
  | object
  | text
  deriving DecidableEq, Repr

/-- Why a text is no rule set. -/
inductive Fault where
  | endInValue
  | endInObject
  | endInString
  | expectedColon
  | expectedCommaOrEnd
  | expectedWord
  | expectedValue
  | invalidEscape
  | invalidNumber
  | numberOutOfRange
  | controlCharacter
  | keyMustBeText
  | loneSurrogate
  | surrogateEnd
  | trailingCharacters
  | trailingComma
  | wrongType (found : Found) (needed : Needed)
  deriving DecidableEq, Repr

/-- A fault and the line and column it was found at. -/
structure Error where
  fault : Fault
  line : Nat
  column : Nat
  deriving DecidableEq, Repr

/-- Whether the text is well-formed up to the fault and the fault lies in the kind of a value. -/
def Error.isWrongType (e : Error) : Bool :=
  match e.fault with
  | .wrongType .. => true
  | _ => false

/-! ### Texts -/

/-- The text of a rounded number: its shortest digits, with a point and at least one digit behind it
from 0.00001 up to 10^16 and with an exponent outside. -/
def roundedText (isNegative : Bool) (x : Binary64) : String :=
  let digit (d : Nat) : Char := Nat.digitChar d
  let body :=
    match x with
    | .infinite => ['i', 'n', 'f']
    | .finite 0 _ => ['0', '.', '0']
    | .finite m e =>
      let s := Decimal.shortest m e
      let ds := s.digits.map digit
      if -5 ≤ s.exponent ∧ s.exponent < 0 then
        ['0', '.'] ++ List.replicate ((-s.exponent).toNat - 1) '0' ++ ds
      else if 0 ≤ s.exponent ∧ s.exponent < 16 then
        let whole := s.exponent.toNat + 1
        let front := ds.take whole ++ List.replicate (whole - ds.length) '0'
        let back := ds.drop whole
        front ++ ['.'] ++ (if back.isEmpty then ['0'] else back)
      else
        let front := ds.take 1 ++ (if ds.length ≤ 1 then [] else '.' :: ds.drop 1)
        front ++ ['e', if s.exponent < 0 then '-' else '+'] ++
          Nat.toDigits 10 s.exponent.natAbs
  String.ofList (if isNegative then '-' :: body else body)

/-- How a value is named that stands where another one is needed. -/
def Found.describe : Found → String
  | .null => "null"
  | .bool b => "boolean `" ++ (if b then "true" else "false") ++ "`"
  | .number (.natural n) => "integer `" ++ toString n ++ "`"
  | .number (.negative n) => "integer `-" ++ toString n ++ "`"
  | .number (.rounded isNegative x) => "floating point `" ++ roundedText isNegative x ++ "`"
  | .text s => "string " ++ Text.quoted s
  | .array => "sequence"
  | .object => "map"

def Needed.describe : Needed → String
  | .object => "a map"
  | .text => "a string"

/-- The text of a fault. -/
def Fault.message : Fault → String
  | .endInValue => "EOF while parsing a value"
  | .endInObject => "EOF while parsing an object"
  | .endInString => "EOF while parsing a string"
  | .expectedColon => "expected `:`"
  | .expectedCommaOrEnd => "expected `,` or `\x7d`"
  | .expectedWord => "expected ident"
  | .expectedValue => "expected value"
  | .invalidEscape => "invalid escape"
  | .invalidNumber => "invalid number"
  | .numberOutOfRange => "number out of range"
  | .controlCharacter =>
    "control character (\\u0000-\\u001F) found while parsing a string"
  | .keyMustBeText => "key must be a string"
  | .loneSurrogate => "lone leading surrogate in hex escape"
  | .surrogateEnd => "unexpected end of hex escape"
  | .trailingCharacters => "trailing characters"
  | .trailingComma => "trailing comma"
  | .wrongType found needed =>
    "invalid type: " ++ found.describe ++ ", expected " ++ needed.describe

/-- The text of an error. -/
def Error.message (e : Error) : String :=
  e.fault.message ++ " at line " ++ toString e.line ++ " column " ++ toString e.column

end MailMerge.Json
