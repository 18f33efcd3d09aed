import MailMerge.Unicode.Property

/-!
# Quoted text

Text in double quotes as it stands in messages. Quotes and backslashes are escaped, the common
control characters by a letter. What cannot be seen is written by its number: characters that are
not printable, and marks that join what stands before them.
-/

namespace MailMerge.Text

/-- The characters that have no picture of their own: controls, formats, unassigned and private
ones, and all separators but the blank. -/
def unprintable : CharSet :=
  let parts := ["Control", "Format", "Unassigned", "Private_Use", "Line_Separator",
    "Paragraph_Separator", "Space_Separator"]
  (CharSet.unions (parts.filterMap (Unicode.lookupSet Unicode.generalCategories))).diff
    (.single ' ')

/-- The marks that join the character before them. -/
def joining : CharSet :=
  (Unicode.lookupSet Unicode.binaryProperties "Grapheme_Extend").getD .empty

/-- A character by its number. -/
private def byNumber (c : Char) : List Char :=
  ['\\', 'u', '\x7b'] ++ Nat.toDigits 16 c.toNat ++ ['\x7d']

/-- A character as it stands in quoted text. -/
def quotedChar (c : Char) : List Char :=
  if c = '\x00' then ['\\', '0']
  else if c = '\t' then ['\\', 't']
  else if c = '\r' then ['\\', 'r']
  else if c = '\n' then ['\\', 'n']
  else if c = '"' ∨ c = '\\' then ['\\', c]
  else if joining.contains c ∨ unprintable.contains c then byNumber c
  else [c]

/-- A text in quotes. -/
def quoted (s : String) : String :=
  String.ofList ('"' :: s.toList.flatMap quotedChar ++ ['"'])

end MailMerge.Text
