import MailMerge.Error
import MailMerge.Json.Reader
import MailMerge.Regex.Replace
import MailMerge.Yaml.Mapping

/-!
# Field modifiers

A field modifier changes the values of a row before they are used. It is a list of rules, each a
pattern with the text that replaces its matches. The rules are applied in order, each to what the
one before it made of the value.

Rules are written in JSON, or in YAML where the text is no JSON. A text in which the JSON reader
comes upon a value of the wrong type is refused and not read as YAML, where numbers and the like
would pass for texts.
-/

namespace MailMerge

/-- Compiles the pattern of an option. -/
def compilePattern (pattern : String) : Except ConfigFault Regex :=
  (Regex.compile? pattern).mapError (.badPattern pattern)

/-- Rules that change values, in the order of their application. -/
structure Modifier where
  rules : List (Regex × String)
  deriving DecidableEq, Repr

namespace Modifier

/-- The modifier without rules. -/
def empty : Modifier := ⟨[]⟩

/-- Compiles rules in order. -/
def compileRules : List (String × String) → Except ConfigFault (List (Regex × String))
  | [] => .ok []
  | (pattern, replacement) :: rest => do
    let re ← compilePattern pattern
    return (re, replacement) :: (← compileRules rest)

/-- The modifier of rules given as patterns with replacements. -/
def ofRecord (rules : Record) : Except ConfigFault Modifier :=
  (compileRules rules.entries).map Modifier.mk

/-- The rules that a text writes. -/
def readRules (text : String) : Except ConfigFault Record :=
  match Json.parse text with
  | .ok rules => .ok rules
  | .error e =>
    if e.isWrongType then .error (.notRules e)
    else
      match Yaml.parse? text with
      | some rules => .ok rules
      | none => .error (.notRules e)

/-- The modifier that a text writes. A blank text writes no rules. -/
def parse (text : String) : Except ConfigFault Modifier :=
  if Text.isBlank text then .ok empty else readRules text >>= ofRecord

/-- A value, changed by all rules in turn. -/
def apply (m : Modifier) (value : String) : String :=
  m.rules.foldl (fun current rule => rule.1.replaceAll current rule.2) value

/-- One rule as it is shown. -/
def describeRule (rule : Regex × String) : String :=
  "'" ++ rule.1.source ++ "' with '" ++ rule.2 ++ "'"

/-- The rules as they are shown. -/
def describe (m : Modifier) : String :=
  if m.rules.isEmpty then "none" else " AND ".intercalate (m.rules.map describeRule)

end Modifier
end MailMerge
