/-!
# Finding and replacing literal text

The plain counterpart of replacing matches of a pattern: one pass from left to right, in which every
occurrence that does not overlap an earlier one is replaced. What was put in is not looked at again.
The empty text occurs everywhere but is replaced nowhere.
-/

namespace MailMerge.Text

/-- Whether a text occurs in another one. -/
def occursIn (old : List Char) : List Char → Bool
  | [] => old.isEmpty
  | c :: rest => old.isPrefixOf (c :: rest) || occursIn old rest

/-- A text with each occurrence of `old` replaced by `new`. -/
def replaceChars (old new : List Char) : List Char → List Char
  | [] => []
  | c :: rest =>
    if old ≠ [] ∧ old.isPrefixOf (c :: rest) then
      new ++ replaceChars old new (rest.drop (old.length - 1))
    else c :: replaceChars old new rest
termination_by text => text.length
decreasing_by
  · simp only [List.length_drop, List.length_cons]; omega
  · simp

/-- `occursIn` on texts. -/
def contains (text old : String) : Bool := occursIn old.toList text.toList

/-- `replaceChars` on texts. -/
def replace (text old new : String) : String :=
  String.ofList (replaceChars old.toList new.toList text.toList)

end MailMerge.Text
