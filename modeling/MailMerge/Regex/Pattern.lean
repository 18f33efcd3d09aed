import MailMerge.CharSet

/-!
# Patterns

A `Pattern` says what a pattern matches, with flags and classes resolved: classes of characters,
places, sequences, alternatives in the order of preference, and repetitions. The functions `concat`,
`alternate` and `repeat` build patterns in a simplified form: sequences and alternatives are nested
to the right and hold no sequence or alternative directly, alternatives between single characters
are one class, as are those between classes, and what all alternatives start with stands before
them.

What alternatives start with is told by the elements of their sequences, and a run of single
characters is one element: `ab` and `ac` start with nothing in common, unlike `a?b` and `a?c`. Two
classes are the same element if they have the same ranges and are both classes of characters or both
classes of bytes.
-/

namespace MailMerge.Regex

/-- How the characters around a place must differ in being part of a word. -/
inductive WordEdge where
  /-- One side is in a word and the other is not. -/
  | boundary
  /-- Both sides are, or neither is. -/
  | inside
  /-- A word starts. -/
  | starts
  /-- A word ends. -/
  | ends
  /-- What stands before is in no word. -/
  | startsHalf
  /-- What stands behind is in no word. -/
  | endsHalf
  deriving DecidableEq, Repr

/-- A condition on a place in a text. -/
inductive Look where
  | textStart
  | textEnd
  | lineStart
  | lineEnd
  /-- As `lineStart`, where a carriage return with an optional line feed ends a line too. -/
  | lineStartCrlf
  | lineEndCrlf
  | word (edge : WordEdge) (unicode : Bool)
  deriving DecidableEq, Repr

/-- How the members of a class are given. -/
inductive ClassKind where
  /-- There is but one, which stands for itself. -/
  | literal
  /-- As characters. -/
  | chars
  /-- As bytes. -/
  | bytes
  deriving DecidableEq, Repr, Inhabited

/-- A class of characters. -/
structure CharClass extends CharSet where
  kind : ClassKind
  deriving DecidableEq, Repr, Inhabited

namespace CharClass

/-- The class of no character. -/
def empty : CharClass := ⟨.empty, .bytes⟩

/-- The class of one character. -/
def single (c : Char) : CharClass := ⟨.single c, .literal⟩

/-- The class of a set of characters, or of bytes if Unicode is switched off. -/
def of (unicode : Bool) (s : CharSet) : CharClass :=
  match s.ranges with
  | [] => ⟨s, .bytes⟩
  | [r] => ⟨s, if r.lo = r.hi then .literal else if unicode then .chars else .bytes⟩
  | _ => ⟨s, if unicode then .chars else .bytes⟩

/-- Whether a class is a character that stands for itself. -/
def isLiteral (c : CharClass) : Bool := c.kind = .literal

@[simp] theorem toCharSet_of (unicode : Bool) (s : CharSet) : (of unicode s).toCharSet = s := by
  unfold of
  split <;> rfl

@[simp] theorem of_single (unicode : Bool) (c : Char) :
    of unicode (CharSet.single c) = single c := by
  simp [of, single, CharSet.single, CharRange.single]

end CharClass

/-- What a pattern matches. -/
inductive Pattern where
  /-- Nothing, everywhere. -/
  | empty
  /-- One character of a class. -/
  | chars (c : CharClass)
  /-- Nothing, at places that meet a condition. -/
  | look (l : Look)
  /-- What `p` matches; the number tells groups apart. -/
  | group (index : Nat) (p : Pattern)
  /-- What `p` matches and then what `q` matches. -/
  | seq (p q : Pattern)
  /-- What `p` matches or, if that leads nowhere, what `q` matches. -/
  | alt (p q : Pattern)
  /-- At least `min` and at most `max` times what `p` matches, as often as possible or as rarely as
  possible. -/
  | repeated (greedy : Bool) (min : Nat) (max : Option Nat) (p : Pattern)
  deriving DecidableEq, Repr, Inhabited

namespace Pattern

/-! ### Sequences

A sequence is kept as `seq`, nested to the right; its members are no sequences. `items`
takes it apart, and `concat` puts it together from patterns that may be sequences or empty. -/

/-- The members of a sequence. -/
def items : Pattern → List Pattern
  | .empty => []
  | .seq p q => p.items ++ q.items
  | p => [p]

/-- The sequence of a list of patterns that are no sequences. -/
def ofItems : List Pattern → Pattern
  | [] => .empty
  | [p] => p
  | p :: ps => .seq p (ofItems ps)

/-- The sequence of a list of patterns. -/
def concat (ps : List Pattern) : Pattern := ofItems (ps.flatMap items)

/-! ### Alternatives

Alternatives are kept as `alt`, nested to the right. What is taken out at their start stands
for itself, so the alternatives that are left may be empty, or classes that can be joined. -/

/-- The alternatives that a pattern offers. -/
def branches : Pattern → List Pattern
  | .alt p q => p.branches ++ q.branches
  | p => [p]

/-- The pattern that offers a list of alternatives that offer none themselves. -/
def ofBranches : List Pattern → Pattern
  | [] => .chars .empty
  | [p] => p
  | p :: ps => .alt p (ofBranches ps)

/-- The class that a pattern is. -/
def class? : Pattern → Option CharClass
  | .chars c => some c
  | _ => none

/-- The class of what is in one of a list of classes, if they are all single characters or none of
them is. -/
def joined? (cs : List CharClass) : Option CharClass :=
  -- a character that stands for itself is joined with others of its kind only
  if cs.all (·.isLiteral) || cs.all (!·.isLiteral) then
    some (.of true (.unions (cs.map (·.toCharSet))))
  else none

/-- Alternatives between classes as one class where they can be joined, and other alternatives as
they are. -/
def ofAlternatives (ps : List Pattern) : Pattern :=
  match ps with
  | [p] => p
  | ps =>
    match (ps.mapM class?).bind joined? with
    | some c => .chars c
    | none => ofBranches ps

/-- Whether a pattern is a character that stands for itself. -/
def isLiteral (p : Pattern) : Bool := p.class?.any (·.isLiteral)

/-- The elements of a sequence: its members, where a run of characters counts as one. -/
def elements (p : Pattern) : List (List Pattern) :=
  p.items.splitBy fun p q => p.isLiteral && q.isLiteral

/-- What two lists have in common at their start. -/
def commonStart {α : Type} [DecidableEq α] : List α → List α → List α
  | x :: xs, y :: ys => if x = y then x :: commonStart xs ys else []
  | _, _ => []

/-- The members that a list of alternatives start with: all elements that they have in common, if
each of them is a sequence of several elements. -/
def sharedStart (ps : List Pattern) : List Pattern :=
  match ps.map elements with
  | first :: rest@(_ :: _) =>
    -- a branch that is a single element keeps it, and then nothing is taken out
    if (first :: rest).all fun es => 2 ≤ es.length then (rest.foldl commonStart first).flatten
    else []
  | _ => []

/-- The pattern that offers a list of alternatives. What all of them start with stands once before
the alternatives. What is left of them starts with nothing in common any more. -/
def alternate (ps : List Pattern) : Pattern :=
  let ps := ps.flatMap branches
  let shared := sharedStart ps
  if shared.isEmpty then ofAlternatives ps
  else
    let ends := ps.map fun p => ofItems (p.items.drop shared.length)
    concat (shared ++ [ofAlternatives (ends.flatMap branches)])

/-! ### Repetitions

A repetition of what is empty is made to come to an end: at most one round of it is kept.
What remains of a repetition may be nothing, or a single round. -/

/-- Whether a pattern matches nothing but the empty text. -/
def isEmptyOnly : Pattern → Bool
  | .empty | .look _ => true
  | .chars _ => false
  | .group _ p => p.isEmptyOnly
  | .seq p q | .alt p q => p.isEmptyOnly && q.isEmptyOnly
  | .repeated _ _ _ p => p.isEmptyOnly

/-- A repetition. Repeating the empty text more than once adds nothing. -/
def «repeat» (greedy : Bool) (min : Nat) (max : Option Nat) (p : Pattern) : Pattern :=
  let (min, max) :=
    if p.isEmptyOnly then (Nat.min min 1, some (Nat.min (max.getD 1) 1)) else (min, max)
  if max = some 0 then .empty
  else if min = 1 ∧ max = some 1 then p
  else .repeated greedy min max p

end Pattern
end MailMerge.Regex
