import MailMerge.Unicode.Table
import MailMerge.Unicode.CaseFolding

/-!
# Sets closed under case folding

Two characters differ only in case when they fold to the same character. `foldCase s` adds to a set
all characters that differ only in case from a member; `foldAsciiCase` does so for the seven-bit
letters alone.
-/

namespace MailMerge.Unicode

/-- The classes of characters that fold to the same character, where there are at least two. -/
def caseClasses : List (List Nat) :=
  (wordsOf foldClasses).map fun word => (word.splitOn '=').map hexNumber

/-- The set closed under the classes: a class that meets the set is added to it. -/
private def closeUnder (classes : List (List Nat)) (s : CharSet) : CharSet :=
  .ofRanges (s.ranges ++
    ((classes.filter fun members => members.any s.has).flatMap id).map .single)

/-- The set with all characters that differ only in case from a member. -/
def foldCase (s : CharSet) : CharSet := closeUnder caseClasses s

/-- The set with the other case of each seven-bit letter in it. -/
def foldAsciiCase (s : CharSet) : CharSet :=
  closeUnder ((List.range 26).map fun i => ['A'.toNat + i, 'a'.toNat + i]) s

end MailMerge.Unicode
