/-!
# Similar words

The Jaro similarity of two words, a number from 0 to 1. Equal characters that stand close to each
other are matched; the similarity is the mean of three shares: of the first word that is matched, of
the second word that is matched, and of the matches that stand in the same order in both.
-/

namespace MailMerge.Text

/-- Marks the first unmarked place from a window of `word` that holds `c`. A place is marked by
`none`. -/
private def claim (c : Char) (low high : Nat) :
    Nat → List (Option Char) → Option (List (Option Char))
  | _, [] => none
  | j, d :: rest =>
    if high ≤ j then none
    else if low ≤ j ∧ d = some c then some (none :: rest)
    else (claim c low high (j + 1) rest).map (d :: ·)

/-- The characters of a word that have a match within `range` places in the other word, and what is
left of that word. -/
private def claimAll (range : Nat) : Nat → List Char → List (Option Char) →
    List Char × List (Option Char)
  | _, [], word => ([], word)
  | i, c :: cs, word =>
    match claim c (i - range) (i + range + 1) 0 word with
    | none => claimAll range (i + 1) cs word
    | some word =>
      let (matched, word) := claimAll range (i + 1) cs word
      (c :: matched, word)

/-- The Jaro similarity of two words. -/
def similarity (a b : List Char) : Float :=
  if a = [] ∧ b = [] then 1
  else
    let range := max a.length b.length / 2 - 1
    let (fromA, left) := claimAll range 0 a (b.map some)
    let fromB := ((b.zip left).filter (·.2.isNone)).map (·.1)
    let swaps := ((fromA.zip fromB).filter fun (x, y) => x ≠ y).length / 2
    let n := fromA.length
    if n = 0 then 0
    else
      (n.toFloat / a.length.toFloat + n.toFloat / b.length.toFloat +
        (n - swaps).toFloat / n.toFloat) / 3

end MailMerge.Text
