import MailMerge.Regex.Syntax
import MailMerge.Regex.Pattern
import MailMerge.Unicode.Property
import MailMerge.Unicode.Fold

/-!
# From syntax to patterns

Resolving reads the flags of a pattern from left to right and gives every construct its meaning
under them. A flag holds until the end of the group it is set in, across the bars of the group.

Where Unicode is switched off, classes are sets of bytes. A pattern may still only match whole
characters, so a class that holds a byte above 127 is refused.
-/

namespace MailMerge.Regex

/-- The flags that bear on matching. -/
structure Flags where
  caseInsensitive : Bool
  multiLine : Bool
  dotMatchesNewLine : Bool
  swapGreed : Bool
  unicode : Bool
  crlf : Bool
  deriving DecidableEq, Repr

namespace Flags

/-- The flags at the start of a pattern. -/
def initial : Flags := ⟨false, false, false, false, true, false⟩

/-- The flags after a list of settings. -/
def apply (fs : Flags) (items : List FlagItem) : Flags :=
  let set (f : Flag) (old : Bool) := (flagSetting f items).getD old
  { caseInsensitive := set .caseInsensitive fs.caseInsensitive
    multiLine := set .multiLine fs.multiLine
    dotMatchesNewLine := set .dotMatchesNewLine fs.dotMatchesNewLine
    swapGreed := set .swapGreed fs.swapGreed
    unicode := set .unicode fs.unicode
    crlf := set .crlf fs.crlf }

end Flags

/-! ### Places

An anchor means the start or end of a line only with the flag for lines on; otherwise it is
one of the whole text. -/

/-- The condition that an anchor stands for. -/
def Anchor.look (fs : Flags) : Anchor → Look
  | .lineStart =>
    if fs.multiLine then (if fs.crlf then .lineStartCrlf else .lineStart) else .textStart
  | .lineEnd => if fs.multiLine then (if fs.crlf then .lineEndCrlf else .lineEnd) else .textEnd
  | .textStart => .textStart
  | .textEnd => .textEnd
  | .wordBoundary => .word .boundary fs.unicode
  | .notWordBoundary => .word .inside fs.unicode
  | .wordStart => .word .starts fs.unicode
  | .wordEnd => .word .ends fs.unicode
  | .wordStartHalf => .word .startsHalf fs.unicode
  | .wordEndHalf => .word .endsHalf fs.unicode

/-! ### Classes

A class is a set of code points, or of bytes with Unicode switched off. Case is folded
before a class is negated, so a negated class leaves out all cases of its members. -/

private def asciiRanges (rs : List (Char × Char)) : CharSet :=
  .ofRanges (rs.map fun (a, b) => ⟨a.toNat, b.toNat⟩)

/-- The members of a class with a name in brackets, all of them seven-bit characters. -/
def NamedClass.set : NamedClass → CharSet
  | .alnum => asciiRanges [('0', '9'), ('A', 'Z'), ('a', 'z')]
  | .alpha => asciiRanges [('A', 'Z'), ('a', 'z')]
  | .ascii => .ascii
  | .blank => asciiRanges [('\t', '\t'), (' ', ' ')]
  | .cntrl => asciiRanges [('\x00', '\x1F'), ('\x7F', '\x7F')]
  | .digit => asciiRanges [('0', '9')]
  | .graph => asciiRanges [('!', '~')]
  | .lower => asciiRanges [('a', 'z')]
  | .print => asciiRanges [(' ', '~')]
  | .punct => asciiRanges [('!', '/'), (':', '@'), ('[', '\x60'), ('\x7B', '~')]
  | .space => asciiRanges [('\t', '\r'), (' ', ' ')]
  | .upper => asciiRanges [('A', 'Z')]
  | .word => asciiRanges [('0', '9'), ('A', 'Z'), ('_', '_'), ('a', 'z')]
  | .xdigit => asciiRanges [('0', '9'), ('A', 'F'), ('a', 'f')]

/-- The members of a class with a one-letter escape. -/
def ShortClass.set (unicode : Bool) : ShortClass → CharSet
  | .digit => if unicode then Unicode.digit else NamedClass.digit.set
  | .space => if unicode then Unicode.space else NamedClass.space.set
  | .word => if unicode then Unicode.word else NamedClass.word.set

def fold (fs : Flags) (s : CharSet) : CharSet :=
  if !fs.caseInsensitive then s
  else if fs.unicode then Unicode.foldCase s
  else Unicode.foldAsciiCase s

/-- Negates against all characters, or against all bytes. -/
private def negate (fs : Flags) (negated : Bool) (s : CharSet) : CharSet :=
  if negated then s.compl (if fs.unicode then CharSet.greatest else 0xFF) else s

/-- Refuses bytes above 127, which are no characters of their own. -/
private def checkBytes (fs : Flags) (span : Span) (s : CharSet) : Except Mistake CharSet :=
  if fs.unicode || s.isAscii then .ok s else .error ⟨.invalidUtf8, span⟩

/-- The class of a property. -/
private def propertySet (fs : Flags) (span : Span) (negated : Bool) (query : PropertyQuery) :
    Except Mistake CharSet :=
  if !fs.unicode then .error ⟨.unicodeNotAllowed, span⟩
  else
    let answer :=
      match query with
      | .named name => Unicode.property name
      | .valued name value => Unicode.propertyValue name value
    match answer with
    | .error .unknownProperty => .error ⟨.propertyNotFound, span⟩
    | .error .unknownValue => .error ⟨.propertyValueNotFound, span⟩
    | .ok s => .ok (negate fs negated (fold fs s))

private def shortSet (fs : Flags) (span : Span) (negated : Bool) (cls : ShortClass) :
    Except Mistake CharSet :=
  checkBytes fs span (negate fs negated (cls.set fs.unicode))

/-- A literal in a class, as a code point or, where Unicode is switched off, as a byte. -/
private def memberCode (fs : Flags) (lit : Literal) : Except Mistake Nat :=
  if fs.unicode || lit.char.toNat < 128 then .ok lit.char.toNat
  else .error ⟨if lit.asByte then .invalidUtf8 else .unicodeNotAllowed, lit.span⟩

mutual

/-- The members of what stands between brackets. -/
def ClassExpr.resolve (fs : Flags) : ClassExpr → Except Mistake CharSet
  | .empty _ => .ok .empty
  | .literal lit => do
    let n ← memberCode fs lit
    return ⟨[.single n]⟩
  | .range _ lo hi => do
    let lo ← memberCode fs lo
    let hi ← memberCode fs hi
    return .ofRanges [⟨lo, hi⟩]
  | .named span negated cls => checkBytes fs span (negate fs negated (fold fs cls.set))
  | .short span negated cls => shortSet fs span negated cls
  | .property span negated query => propertySet fs span negated query
  | .bracketed span negated body => do
    let s ← body.resolve fs
    checkBytes fs span (negate fs negated (fold fs s))
  | .union _ items => ClassExpr.resolveAll fs items
  | .binary _ op lhs rhs => do
    -- each side is folded by itself, as if it stood alone
    let a := fold fs (← lhs.resolve fs)
    let b := fold fs (← rhs.resolve fs)
    return match op with
      | .intersection => a.inter b
      | .difference => a.diff b
      | .symmetricDifference => a.symmDiff b

/-- The members of a list of class expressions together. -/
def ClassExpr.resolveAll (fs : Flags) : List ClassExpr → Except Mistake CharSet
  | [] => .ok .empty
  | e :: rest => do
    let s ← e.resolve fs
    let t ← ClassExpr.resolveAll fs rest
    return s.union t

end

/-! ### Expressions

Flags are handed on from left to right. Behind a group they are what they were before it;
behind anything else they are what they have become. -/

/-- One character, in either case if case is ignored. -/
def literalSet (fs : Flags) (lit : Literal) : Except Mistake CharSet :=
  if !fs.unicode && lit.asByte && 128 ≤ lit.char.toNat then .error ⟨.invalidUtf8, lit.span⟩
  else .ok (fold fs (.single lit.char))

/-- What a dot matches. -/
private def dotSet (fs : Flags) (span : Span) : Except Mistake CharSet :=
  if !fs.unicode then .error ⟨.invalidUtf8, span⟩
  else
    let ends := if fs.dotMatchesNewLine then [] else if fs.crlf then ['\n', '\r'] else ['\n']
    .ok (CharSet.compl CharSet.greatest (.unions (ends.map .single)))

/-- The pattern of one character of a set. -/
def Pattern.ofSet (fs : Flags) (s : CharSet) : Pattern := .chars (.of fs.unicode s)

mutual

/-- The pattern that an expression stands for under flags, and the flags behind it. -/
def Expr.resolve (fs : Flags) : Expr → Except Mistake (Pattern × Flags)
  | .empty _ => .ok (.empty, fs)
  | .flags _ items => .ok (.empty, fs.apply items)
  | .literal lit => do return (.ofSet fs (← literalSet fs lit), fs)
  | .dot span => do return (.ofSet fs (← dotSet fs span), fs)
  | .anchor _ a => .ok (.look (a.look fs), fs)
  | .short span negated cls => do return (.ofSet fs (← shortSet fs span negated cls), fs)
  | .property span negated query => do
    return (.ofSet fs (← propertySet fs span negated query), fs)
  | .bracketed span negated body => do
    let s ← body.resolve fs
    return (.ofSet fs (← checkBytes fs span (negate fs negated (fold fs s))), fs)
  | .repeated _ greedy min max body => do
    let (p, fs) ← body.resolve fs
    return (.repeat (greedy != fs.swapGreed) min max p, fs)
  | .group _ kind body => do
    match kind with
    | .capture index =>
      let (p, _) ← body.resolve fs
      return (.group index p, fs)
    | .plain items =>
      -- the flags of the group hold inside of it only
      let (p, _) ← body.resolve (fs.apply items)
      return (p, fs)
  | .alternation _ items => do
    let (ps, fs) ← Expr.resolveAll fs items
    return (.alternate ps, fs)
  | .concat _ items => do
    let (ps, fs) ← Expr.resolveAll fs items
    return (.concat ps, fs)

/-- The patterns of a list of expressions, flags being handed on from each to the next. -/
def Expr.resolveAll (fs : Flags) : List Expr → Except Mistake (List Pattern × Flags)
  | [] => .ok ([], fs)
  | e :: rest => do
    let (p, fs) ← e.resolve fs
    let (ps, fs) ← Expr.resolveAll fs rest
    return (p :: ps, fs)

end

end MailMerge.Regex
