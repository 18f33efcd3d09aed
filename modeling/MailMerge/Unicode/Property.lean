import MailMerge.Unicode.Table
import MailMerge.Unicode.Names
import MailMerge.Unicode.GeneralCategory
import MailMerge.Unicode.Script
import MailMerge.Unicode.ScriptExtension
import MailMerge.Unicode.Binary
import MailMerge.Unicode.Age
import MailMerge.Unicode.Break

/-!
# Sets of characters by property

A property is asked for by one name (`Alphabetic`, `Lu`, `Greek`) or by a name and a value
(`script=Greek`). Names are matched loosely: case, blanks, `_`, `-` and a leading `is` make no
difference. A single name is taken as a binary property first, then as a general category, then as a
script.
-/

namespace MailMerge.Unicode

/-- Why a property denotes no set. -/
inductive PropertyError where
  /-- There is no such property, or it is not one that characters have or lack. -/
  | unknownProperty
  /-- The property has no such value, or no character has it. -/
  | unknownValue
  deriving DecidableEq, Repr

/-- The form in which names are compared. `isc` keeps its `is`, being a name of its own and not `c`.
-/
def looseName (name : String) : String :=
  let cs := name.toList
  let (marked, body) :=
    match cs with
    | a :: b :: rest =>
      if (a == 'i' || a == 'I') && (b == 's' || b == 'S') then (true, rest) else (false, cs)
    | _ => (false, cs)
  let kept := (body.filter fun c => c ≠ ' ' && c ≠ '_' && c ≠ '-' && c.toNat < 128).map Char.toLower
  if marked && kept == ['c'] then "isc" else String.ofList kept

/-! ### General categories -/

/-- The two-letter categories of a group of categories, by their full names. -/
private def categoryGroup : String → Option (List String)
  | "Cased_Letter" => some ["Uppercase_Letter", "Lowercase_Letter", "Titlecase_Letter"]
  | "Letter" => some ["Uppercase_Letter", "Lowercase_Letter", "Titlecase_Letter", "Modifier_Letter",
      "Other_Letter"]
  | "Mark" => some ["Nonspacing_Mark", "Spacing_Mark", "Enclosing_Mark"]
  | "Number" => some ["Decimal_Number", "Letter_Number", "Other_Number"]
  | "Other" => some ["Control", "Format", "Private_Use", "Unassigned"]
  | "Punctuation" => some ["Connector_Punctuation", "Dash_Punctuation", "Open_Punctuation",
      "Close_Punctuation", "Initial_Punctuation", "Final_Punctuation", "Other_Punctuation"]
  | "Separator" => some ["Space_Separator", "Line_Separator", "Paragraph_Separator"]
  | "Symbol" => some ["Math_Symbol", "Currency_Symbol", "Modifier_Symbol", "Other_Symbol"]
  | _ => none

/-- The code points that are no characters. They are a category of their own, which has no name here
but is one of the group `Other`. -/
private def surrogates : CharSet := ⟨[⟨0xD800, 0xDFFF⟩]⟩

/-- The characters of a general category or a group of them, by its full name. -/
def category (name : String) : Option CharSet :=
  match categoryGroup name with
  | some members =>
    let sets := members.filterMap (lookupSet generalCategories)
    some (.unions (if name = "Other" then surrogates :: sets else sets))
  | none =>
    match name with
    | "Any" => some .all
    | "ASCII" => some .ascii
    | "Assigned" => (lookupSet generalCategories "Unassigned").map (.compl CharSet.greatest)
    | _ => lookupSet generalCategories name

private def categoryName (loose : String) : Option String :=
  match loose with
  | "any" => some "Any"
  | "assigned" => some "Assigned"
  | "ascii" => some "ASCII"
  | _ => lookupName generalCategoryNames loose

/-! ### Questions -/

/-- The set of a property that is asked for by one name. `cf`, `sc` and `lc` are also names of
properties that are no sets, and mean the general categories here. -/
def property (name : String) : Except PropertyError CharSet :=
  let loose := looseName name
  let taken := if ["cf", "sc", "lc"].contains loose then none else lookupName propertyNames loose
  match taken with
  | some full => (lookupSet binaryProperties full).elim (.error .unknownProperty) .ok
  | none =>
    match categoryName loose with
    | some full => (category full).elim (.error .unknownValue) .ok
    | none =>
      match lookupName scriptNames loose with
      | some full => (lookupSet scripts full).elim (.error .unknownValue) .ok
      | none => .error .unknownProperty

/-- The characters of all versions up to the named one. -/
private def ageSet (full : String) : Option CharSet :=
  let upTo := ages.takeWhile (·.1 ≠ full)
  (ages.find? (·.1 == full)).map fun last => .unions ((upTo ++ [last]).map fun row => readSet row.2)

/-- The set of the characters that have a value of a property. -/
def propertyValue (name value : String) : Except PropertyError CharSet :=
  let loose := looseName value
  let answer (set : Option CharSet) : Except PropertyError CharSet :=
    set.elim (.error .unknownValue) .ok
  match lookupName propertyNames (looseName name) with
  | none => .error .unknownProperty
  | some "General_Category" => answer ((categoryName loose).bind category)
  | some "Script" => answer ((lookupName scriptNames loose).bind (lookupSet scripts))
  | some "Script_Extensions" =>
    answer ((lookupName scriptNames loose).bind fun full =>
      (lookupSet scriptExtensions full).or (lookupSet scripts full))
  | some "Age" => answer ((lookupName ageNames loose).bind ageSet)
  | some "Grapheme_Cluster_Break" =>
    answer ((lookupName graphemeClusterBreakNames loose).bind (lookupSet graphemeClusterBreaks))
  | some "Word_Break" => answer ((lookupName wordBreakNames loose).bind (lookupSet wordBreaks))
  | some "Sentence_Break" =>
    answer ((lookupName sentenceBreakNames loose).bind (lookupSet sentenceBreaks))
  | some _ => .error .unknownValue

/-! ### Classes in everyday use -/

private def required (table : List (String × String)) (name : String) : CharSet :=
  (lookupSet table name).getD .empty

/-- Letters and what is written like letters. -/
def alphabetic : CharSet := required binaryProperties "Alphabetic"

/-- Decimal digits of all scripts. -/
def digit : CharSet := required generalCategories "Decimal_Number"

/-- White space. -/
def space : CharSet := required binaryProperties "White_Space"

/-- The characters that make up words: letters, marks, decimal digits, connectors and joiners. -/
def word : CharSet :=
  .unions ([alphabetic, digit, required generalCategories "Connector_Punctuation",
    required binaryProperties "Join_Control"] ++ (category "Mark").toList)

/-- Letters and numbers of every kind. -/
def alphanumeric : CharSet := .unions (alphabetic :: (category "Number").toList)

end MailMerge.Unicode
