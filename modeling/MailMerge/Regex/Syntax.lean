import MailMerge.Regex.Error

/-!
# Pattern syntax

A pattern as it was written: every construct is kept with the characters it covers, and nothing is
interpreted yet. Flags, classes and repetitions get their meaning when the tree is resolved into a
`Pattern`.
-/

namespace MailMerge.Regex

/-- A switch that changes how the rest of a group is read or matched. -/
inductive Flag where
  /-- `i`: letters match in either case. -/
  | caseInsensitive
  /-- `m`: `^` and `$` also match at line ends. -/
  | multiLine
  /-- `s`: `.` also matches a line feed. -/
  | dotMatchesNewLine
  /-- `U`: repetitions are lazy, and greedy when followed by `?`. -/
  | swapGreed
  /-- `u`: classes and case are those of all of Unicode, on by default. -/
  | unicode
  /-- `R`: a carriage return also ends a line. -/
  | crlf
  /-- `x`: blanks and comments in the pattern mean nothing. -/
  | ignoreWhitespace
  deriving DecidableEq, Repr

/-- An entry of a list of flags. -/
inductive FlagItem where
  /-- A flag to switch on, or off behind a minus sign. -/
  | flag (f : Flag)
  /-- The minus sign: the flags behind it are switched off. -/
  | minus
  deriving DecidableEq, Repr

/-- What a list of flags says about a flag. -/
def flagSetting (f : Flag) (items : List FlagItem) : Option Bool :=
  if items.contains (.flag f) then some (!(items.takeWhile (· ≠ .flag f)).contains .minus) else none

/-- A place that a pattern can ask for, before flags are known. -/
inductive Anchor where
  | lineStart
  | lineEnd
  | textStart
  | textEnd
  | wordBoundary
  | notWordBoundary
  | wordStart
  | wordEnd
  | wordStartHalf
  | wordEndHalf
  deriving DecidableEq, Repr

/-- A class with a one-letter escape: `\d`, `\s`, `\w`. -/
inductive ShortClass where
  | digit
  | space
  | word
  deriving DecidableEq, Repr

/-- A class with a name in brackets, such as `[:alpha:]`. -/
inductive NamedClass where
  | alnum | alpha | ascii | blank | cntrl | digit | graph | lower | print | punct | space | upper
  | word | xdigit
  deriving DecidableEq, Repr

/-- A question for a Unicode property. -/
inductive PropertyQuery where
  /-- One name: `\pL`, `\p{Greek}`. -/
  | named (name : String)
  /-- A name and a value. -/
  | valued (name value : String)
  deriving DecidableEq, Repr

/-- One character. `asByte` holds for the form `\xHH`, which stands for a byte where Unicode is
switched off. -/
structure Literal where
  span : Span
  char : Char
  asByte : Bool
  deriving DecidableEq, Repr

/-- An operation on two classes. -/
inductive ClassOp where
  | intersection
  | difference
  | symmetricDifference
  deriving DecidableEq, Repr

/-- What stands between brackets. -/
inductive ClassExpr where
  | empty (span : Span)
  | literal (lit : Literal)
  | range (span : Span) (lo hi : Literal)
  | named (span : Span) (negated : Bool) (cls : NamedClass)
  | short (span : Span) (negated : Bool) (cls : ShortClass)
  | property (span : Span) (negated : Bool) (query : PropertyQuery)
  | bracketed (span : Span) (negated : Bool) (body : ClassExpr)
  | union (span : Span) (items : List ClassExpr)
  | binary (span : Span) (op : ClassOp) (lhs rhs : ClassExpr)
  deriving Repr

/-- The characters that a class expression covers. -/
def ClassExpr.span : ClassExpr → Span
  | empty s | range s .. | named s .. | short s .. | property s .. | bracketed s .. | union s ..
  | binary s .. => s
  | literal l => l.span

/-- The opening of a group. -/
inductive GroupKind where
  /-- A group whose text could be asked for, numbered in the order of the opening parentheses. -/
  | capture (index : Nat)
  /-- A group that only groups, with flags for what it holds. -/
  | plain (flags : List FlagItem)
  deriving DecidableEq, Repr

/-- A pattern. -/
inductive Expr where
  | empty (span : Span)
  | flags (span : Span) (items : List FlagItem)
  | literal (lit : Literal)
  | dot (span : Span)
  | anchor (span : Span) (a : Anchor)
  | short (span : Span) (negated : Bool) (cls : ShortClass)
  | property (span : Span) (negated : Bool) (query : PropertyQuery)
  | bracketed (span : Span) (negated : Bool) (body : ClassExpr)
  | repeated (span : Span) (greedy : Bool) (min : Nat) (max : Option Nat) (body : Expr)
  | group (span : Span) (kind : GroupKind) (body : Expr)
  | alternation (span : Span) (branches : List Expr)
  | concat (span : Span) (items : List Expr)
  deriving Repr

/-- The characters that an expression covers. -/
def Expr.span : Expr → Span
  | empty s | flags s .. | dot s | anchor s .. | short s .. | property s .. | bracketed s ..
  | repeated s .. | group s .. | alternation s .. | concat s .. => s
  | literal l => l.span

/-- A sequence of expressions; a sequence of one is that expression. -/
def Expr.ofItems (span : Span) : List Expr → Expr
  | [] => .empty span
  | [e] => e
  | es => .concat span es

/-- A sequence of class members; a sequence of one is that member. -/
def ClassExpr.ofItems (span : Span) : List ClassExpr → ClassExpr
  | [] => .empty span
  | [e] => e
  | es => .union span es

end MailMerge.Regex
