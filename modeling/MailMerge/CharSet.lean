/-!
# Sets of characters

A `CharSet` is a finite union of inclusive ranges of code points. The operations keep the ranges
sorted and apart from one another, so that sets with the same ranges compare equal, but no statement
about membership depends on that order:

    c ∈ union a b ↔ c ∈ a ∨ c ∈ b

and likewise for the other operations.

The code points from D800 to DFFF are no characters. A range may run across them, but none ends
there: the character behind D7FF is E000. Two ranges that only they part stay apart.
-/

namespace MailMerge

/-- An inclusive range of code points, empty when `hi < lo`. -/
structure CharRange where
  lo : Nat
  hi : Nat
  deriving DecidableEq, Repr

namespace CharRange

/-- The range of one code point. -/
def single (n : Nat) : CharRange := ⟨n, n⟩

/-- Whether a code point lies in the range. -/
def has (r : CharRange) (n : Nat) : Bool := r.lo ≤ n && n ≤ r.hi

/-- The part of `r` that lies in `s`. -/
def inter (r s : CharRange) : CharRange := ⟨max r.lo s.lo, min r.hi s.hi⟩

/-- The code point of the next character. -/
def next (n : Nat) : Nat := if n = 0xD7FF then 0xE000 else n + 1

/-- The code point of the character before. -/
def prev (n : Nat) : Nat := if n = 0xE000 then 0xD7FF else n - 1

/-- What `s` leaves of `r`: the part below `s` and the part above it. -/
def cut (r s : CharRange) : List CharRange :=
  (if r.lo < s.lo then [⟨r.lo, min r.hi (prev s.lo)⟩] else []) ++
    (if s.hi < r.hi then [⟨max r.lo (next s.hi), r.hi⟩] else [])

/-- The range between two code points, whichever of them is the greater. -/
def between (m n : Nat) : CharRange := ⟨min m n, max m n⟩

/-- Whether two ranges overlap or stand side by side. -/
def touches (r s : CharRange) : Bool := s.lo ≤ r.hi + 1 && r.lo ≤ s.hi + 1

/-- The smallest range around two ranges. -/
def hull (r s : CharRange) : CharRange := ⟨min r.lo s.lo, max r.hi s.hi⟩

end CharRange

/-- A set of characters, as ranges of code points. -/
structure CharSet where
  ranges : List CharRange
  deriving DecidableEq, Repr, Inhabited

namespace CharSet

/-- Joins a range with those of a sorted list that it touches, and then these with one another. -/
def absorb (r : CharRange) : List CharRange → List CharRange
  | [] => [r]
  | s :: rest => if r.touches s then absorb (r.hull s) rest else r :: absorb s rest

/-- Joins neighbours that touch. On a sorted list this leaves ranges that are apart. -/
def join : List CharRange → List CharRange
  | [] => []
  | r :: rest => absorb r rest

/-- The set of all code points in some range of the list. -/
def ofRanges (rs : List CharRange) : CharSet :=
  ⟨join ((rs.filter fun r => r.lo ≤ r.hi).mergeSort fun r s => r.lo ≤ s.lo)⟩

/-- The set of no character. -/
def empty : CharSet := ⟨[]⟩

/-- The set of one character. -/
def single (c : Char) : CharSet := ⟨[.single c.toNat]⟩

/-- The greatest code point. -/
def greatest : Nat := 0x10FFFF

/-- All characters. -/
def all : CharSet := ⟨[⟨0, greatest⟩]⟩

/-- The seven-bit characters. -/
def ascii : CharSet := ⟨[⟨0, 0x7F⟩]⟩

/-- Whether a code point is in the set. -/
def has (s : CharSet) (n : Nat) : Bool := s.ranges.any (·.has n)

/-- Whether a character is in the set. -/
def contains (s : CharSet) (c : Char) : Bool := s.has c.toNat

/-- Whether all members are seven-bit characters. -/
def isAscii (s : CharSet) : Bool := s.ranges.all fun r => r.hi ≤ 0x7F

def union (s t : CharSet) : CharSet := ofRanges (s.ranges ++ t.ranges)

def inter (s t : CharSet) : CharSet :=
  ofRanges (s.ranges.flatMap fun r => t.ranges.map r.inter)

def diff (s t : CharSet) : CharSet :=
  ofRanges (t.ranges.foldl (fun rest r => rest.flatMap (·.cut r)) s.ranges)

/-- The members of exactly one of two sets. -/
def symmDiff (s t : CharSet) : CharSet := (s.union t).diff (s.inter t)

/-- What lies between the ranges of a list and behind them, up to a greatest code point. Where two
ranges are parted by no character, what lies between them has the two characters at their ends. -/
def gaps (top : Nat) : List CharRange → List CharRange
  | [] => []
  | [r] => if r.hi < top then [.between (CharRange.next r.hi) top] else []
  | r :: s :: rest => .between (CharRange.next r.hi) (CharRange.prev s.lo) :: gaps top (s :: rest)

/-- What is not in the set, up to a greatest code point. -/
def compl (top : Nat) (s : CharSet) : CharSet :=
  match s.ranges with
  | [] => ⟨[⟨0, top⟩]⟩
  | r :: rest =>
    ⟨(if 0 < r.lo then [.between 0 (CharRange.prev r.lo)] else []) ++ gaps top (r :: rest)⟩

/-- The union of a list of sets. -/
def unions (ss : List CharSet) : CharSet := ofRanges (ss.flatMap (·.ranges))

end CharSet
end MailMerge
