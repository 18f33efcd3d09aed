import MailMerge.Regex.Parser
import MailMerge.Regex.Resolve
import MailMerge.Regex.Search
import MailMerge.Regex.Size

/-!
# Compiled patterns and replacement

`Regex.compile?` takes a pattern from its text to a program. The matches of a program in a text are
found one after the other: each search starts where the last match ended, and an empty match right
behind the last match is passed over. Replacing puts the same text in place of every match:

    re.replaceAll text r = substitute r (re.spans text) text
-/

namespace MailMerge

/-- A compiled pattern. -/
structure Regex where
  source : String
  pattern : Regex.Pattern
  entry : Nat
  program : Regex.Program
  deriving DecidableEq, Repr

namespace Regex

/-- The pattern that a text stands for. -/
def Pattern.ofString? (source : String) : Except Error Pattern :=
  match parse source >>= Expr.resolve Flags.initial with
  | .error mistake => .error (.malformed source mistake)
  | .ok (p, _) => .ok p

/-- Compiles a pattern, unless its program would be too large. -/
def compile? (source : String) : Except Error Regex := do
  let pattern ← Pattern.ofString? source
  match pattern.isTooLarge with
  | true => throw .tooLarge
  | false =>
    let (entry, program) := pattern.program
    return { source, pattern, entry, program }

/-- What a compiled pattern is made of. -/
theorem eq_of_compile? {source : String} {re : Regex} (h : compile? source = .ok re) :
    ∃ p, Pattern.ofString? source = .ok p ∧ p.isTooLarge = false ∧
      re = ⟨source, p, p.program.1, p.program.2⟩ := by
  unfold compile? at h
  cases hp : Pattern.ofString? source with
  | error e => simp [hp, bind, Except.bind] at h
  | ok p =>
    simp only [hp, bind, Except.bind] at h
    split at h
    · cases h
    · next hsize => exact ⟨p, rfl, hsize, (Except.ok.inj h).symm⟩

/-- The first match at a position or later. -/
def find (re : Regex) (text : Array Char) (start : Nat) : Option Match :=
  firstMatch re.program re.entry text start ∅

theorem find_bounds {re : Regex} {text : Array Char} {start : Nat} {m : Match}
    (h : re.find text start = some m) :
    start ≤ m.start ∧ m.start ≤ m.stop ∧ m.stop ≤ text.size :=
  firstMatch_bounds h

/-- The next match behind a position, where `last` is the end of the match before. An empty match
there is passed over by searching from the next character on. -/
def findNext (re : Regex) (text : Array Char) (start : Nat) (last : Option Nat) : Option Match :=
  match re.find text start with
  | none => none
  | some m =>
    if m.start = m.stop ∧ last = some m.stop then re.find text (start + 1) else some m

theorem findNext_bounds {re : Regex} {text : Array Char} {start : Nat} {last : Option Nat}
    {m : Match} (h : re.findNext text start last = some m) :
    start ≤ m.start ∧ m.start ≤ m.stop ∧ m.stop ≤ text.size ∧
      (last = some start → start < m.stop) := by
  unfold findNext at h
  split at h
  · simp at h
  · next found hfound =>
    split at h
    · have := find_bounds h
      omega
    · next hne =>
      obtain rfl := Option.some.inj h
      have hb := find_bounds hfound
      refine ⟨hb.1, hb.2.1, hb.2.2, fun hlast => ?_⟩
      rcases Nat.lt_or_ge start found.stop with hlt | hge
      · exact hlt
      · exact absurd ⟨by omega, by rw [hlast]; congr 1; omega⟩ hne

/-- The matches behind a position, in order. -/
def spansFrom (re : Regex) (text : Array Char) (start : Nat) (last : Option Nat) : List Match :=
  match _h : re.findNext text start last with
  | none => []
  | some m => m :: spansFrom re text m.stop (some m.stop)
termination_by (text.size + 1 - start, if last = some start then 0 else 1)
decreasing_by
  obtain ⟨h1, h2, h3, h4⟩ := findNext_bounds _h
  by_cases hs : m.stop = start
  · have hl : last ≠ some start := fun hl => by have := h4 hl; omega
    rw [hs]
    simp only [if_true, if_neg hl]
    exact Prod.Lex.right _ (by omega)
  · exact Prod.Lex.left _ _ (by omega)

/-- All matches in a text that replacement replaces, in order. -/
def spans (re : Regex) (text : Array Char) : List Match := re.spansFrom text 0 none

/-- The text from a position on, with each match replaced. -/
def substituteFrom (replacement : List Char) (text : Array Char) (pos : Nat) :
    List Match → List Char
  | [] => (text.toList.drop pos)
  | m :: rest =>
    (text.extract pos m.start).toList ++ replacement ++
      substituteFrom replacement text m.stop rest

/-- A text with every match of a pattern replaced by the same text, taken literally. -/
def replaceAll (re : Regex) (text replacement : String) : String :=
  let chars := text.toList.toArray
  String.ofList (substituteFrom replacement.toList chars 0 (re.spans chars))

end Regex
end MailMerge
