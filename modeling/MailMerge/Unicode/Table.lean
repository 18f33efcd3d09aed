import MailMerge.CharSet

/-!
# Reading property tables

The tables of character properties list code points as text: inclusive hexadecimal ranges separated
by blanks or line breaks, such as `41-5a 61-7a aa`.
-/

namespace MailMerge.Unicode

/-- The value of a hexadecimal digit. -/
def hexDigit? (c : Char) : Option Nat :=
  if c.isDigit then some (c.toNat - '0'.toNat)
  else if 'a' ≤ c ∧ c ≤ 'f' then some (c.toNat - 'a'.toNat + 10)
  else if 'A' ≤ c ∧ c ≤ 'F' then some (c.toNat - 'A'.toNat + 10)
  else none

/-- The number that hexadecimal digits write; other characters count as zeros. -/
def hexNumber (digits : List Char) : Nat :=
  digits.foldl (fun n c => n * 16 + (hexDigit? c).getD 0) 0

/-- The words of a text, parted by blanks and line breaks. -/
def wordsOf (text : String) : List (List Char) :=
  (text.toList.splitOnP fun c => c = ' ' || c = '\n').filter (· ≠ [])

/-- The range that a word writes: one number, or two with a minus sign between them. -/
private def readRange (word : List Char) : CharRange :=
  let lo := word.takeWhile (· ≠ '-')
  let hi := word.drop (lo.length + 1)
  ⟨hexNumber lo, hexNumber (if hi.isEmpty then lo else hi)⟩

/-- The set that a table entry lists. -/
def readSet (text : String) : CharSet := ⟨(wordsOf text).map readRange⟩

/-- The entry of a table under a name. -/
def lookup (table : List (String × String)) (name : String) : Option String :=
  (table.find? (·.1 == name)).map (·.2)

/-- The set of a table under a name. -/
def lookupSet (table : List (String × String)) (name : String) : Option CharSet :=
  (lookup table name).map readSet

/-- The full name that a loose name stands for, in a table of names. -/
def lookupName (names : List (String × String)) (loose : String) : Option String :=
  (names.find? fun row => (wordsOf row.2).contains loose.toList).map (·.1)

end MailMerge.Unicode
