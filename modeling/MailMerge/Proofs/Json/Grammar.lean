import MailMerge.Json.Reader

/-!
# The grammar of JSON

The grammar of RFC 8259 as relations between a text and what is left of it: `Value cs rest` says
that `cs` begins with a value behind which `rest` stands. A `Document` is one value with nothing but
space around it, and a `FlatDocument` is an object whose values are all texts.

A number is taken to its end, that is, as far as its characters go on. In a document nothing follows
a number that could belong to it, so this excludes no document.

Of texts there are two relations. `Body` is what the grammar allows between quotes; there, half of a
surrogate pair may stand alone. `Spells` also tells the characters, and wants both halves.
-/

namespace MailMerge.Json

/-- Space between tokens. -/
inductive Gap : List Char → List Char → Prop
  | none {rest} : Gap rest rest
  | space {c cs rest} : isSpace c = true → Gap cs rest → Gap (c :: cs) rest

/-! ### Numbers

Each part of a number ends where the next character does not belong to it, and this is part
of the relations: so a text begins with one number at most. -/

/-- A run of digits, to its end. -/
def Digits (cs rest : List Char) : Prop :=
  ∃ ds, ds ≠ [] ∧ (∀ d ∈ ds, d.isDigit = true) ∧ cs = ds ++ rest ∧
    ∀ c ∈ rest.head?, c.isDigit = false

/-- The whole part of a number: digits that do not start with a needless zero. -/
inductive Whole : List Char → List Char → Prop
  | zero {rest} : (∀ c ∈ rest.head?, c.isDigit = false) → Whole ('0' :: rest) rest
  | digits {d cs rest} : d ≠ '0' → Digits (d :: cs) rest → Whole (d :: cs) rest

/-- The fraction of a number, if it has one. -/
inductive Fraction : List Char → List Char → Prop
  | none {rest} : (∀ c ∈ rest.head?, c ≠ '.') → Fraction rest rest
  | digits {cs rest} : Digits cs rest → Fraction ('.' :: cs) rest

/-- The sign of an exponent, if it has one. -/
inductive Sign : List Char → List Char → Prop
  | none {rest} : Sign rest rest
  | plus {rest} : Sign ('+' :: rest) rest
  | minus {rest} : Sign ('-' :: rest) rest

/-- The exponent of a number, if it has one. -/
inductive Exponent : List Char → List Char → Prop
  | none {rest} : (∀ c ∈ rest.head?, c ≠ 'e' ∧ c ≠ 'E') → Exponent rest rest
  | digits {e cs ds rest} : e = 'e' ∨ e = 'E' → Sign cs ds → Digits ds rest → Exponent (e :: cs) rest

/-- A number without its sign. -/
def Magnitude (cs rest : List Char) : Prop :=
  ∃ fraction exponent, Whole cs fraction ∧ Fraction fraction exponent ∧ Exponent exponent rest

/-! ### Texts -/

/-- Whether a code unit is one half of a surrogate pair. -/
def isSurrogate (n : Nat) : Bool := isLeading n || isTrailing n

/-- A text up to its closing quote. -/
inductive Body : List Char → List Char → Prop
  | close {rest} : Body ('"' :: rest) rest
  | raw {c cs rest} : ' ' ≤ c → c ≠ '"' → c ≠ '\\' → Body cs rest → Body (c :: cs) rest
  | short {c cs rest} : (escaped? c).isSome = true → Body cs rest → Body ('\\' :: c :: cs) rest
  | code {a b c d cs rest} : (hex4? a b c d).isSome = true → Body cs rest →
      Body ('\\' :: 'u' :: a :: b :: c :: d :: cs) rest

/-- What stands behind a backslash for a character. -/
inductive Escape : Char → List Char → List Char → Prop
  | short {c l rest} : escaped? l = some c → Escape c (l :: rest) rest
  | code {a b c d n rest} : hex4? a b c d = some n → isSurrogate n = false →
      Escape (Char.ofNat n) ('u' :: a :: b :: c :: d :: rest) rest
  | pair {a b c d a' b' c' d' m n rest} : hex4? a b c d = some m → isLeading m = true →
      hex4? a' b' c' d' = some n → isTrailing n = true →
      Escape (ofPair m n) ('u' :: a :: b :: c :: d :: '\\' :: 'u' :: a' :: b' :: c' :: d' :: rest)
        rest

/-- A text up to its closing quote, with the characters it stands for. -/
inductive Spells : List Char → List Char → List Char → Prop
  | close {rest} : Spells [] ('"' :: rest) rest
  | raw {c s cs rest} : ' ' ≤ c → c ≠ '"' → c ≠ '\\' → Spells s cs rest →
      Spells (c :: s) (c :: cs) rest
  | escape {c s cs cs' rest} : Escape c cs cs' → Spells s cs' rest → Spells (c :: s) ('\\' :: cs) rest

/-- A text up to its closing quote that stands for characters. -/
def Spelled (cs rest : List Char) : Prop := ∃ s, Spells s cs rest

/-- A text up to an escape for half of a surrogate pair. -/
inductive Halved : List Char → Prop
  | here {a b c d n cs} : hex4? a b c d = some n → isSurrogate n = true →
      Halved ('\\' :: 'u' :: a :: b :: c :: d :: cs)
  | raw {c cs} : ' ' ≤ c → c ≠ '"' → c ≠ '\\' → Halved cs → Halved (c :: cs)
  | short {c cs} : (escaped? c).isSome = true → Halved cs → Halved ('\\' :: c :: cs)
  | code {a b c d cs} : (hex4? a b c d).isSome = true → Halved cs →
      Halved ('\\' :: 'u' :: a :: b :: c :: d :: cs)

/-- A text in quotes, `K` being what may stand between them. -/
def Quoted (K : List Char → List Char → Prop) (cs rest : List Char) : Prop :=
  ∃ body, cs = '"' :: body ∧ K body rest

/-! ### Arrays and objects

Values hold values. The relations for arrays and for members are said for values `P` and for
texts `K` of whatever kind, so that the same ones serve for values of all kinds and for
texts alone. -/

variable (K P : List Char → List Char → Prop)

/-- The values of an array that is not empty, up to its closing bracket. -/
inductive Items : List Char → List Char → Prop
  | last {cs v a rest} : Gap cs v → P v a → Gap a (']' :: rest) → Items cs rest
  | more {cs v a b rest} : Gap cs v → P v a → Gap a (',' :: b) → Items b rest → Items cs rest

/-- The key of a member of an object, up to its value. -/
inductive Key : List Char → List Char → Prop
  | mk {cs k a b v} : Gap cs ('"' :: k) → K k a → Gap a (':' :: b) → Gap b v → Key cs v

/-- The members of an object that is not empty, up to its closing brace. -/
inductive Members : List Char → List Char → Prop
  | last {cs v a rest} : Key K cs v → P v a → Gap a ('}' :: rest) → Members cs rest
  | more {cs v a b rest} : Key K cs v → P v a → Gap a (',' :: b) → Members b rest → Members cs rest

/-- A value of any kind. -/
inductive Value : List Char → List Char → Prop
  | null {rest} : Value ('n' :: 'u' :: 'l' :: 'l' :: rest) rest
  | true {rest} : Value ('t' :: 'r' :: 'u' :: 'e' :: rest) rest
  | false {rest} : Value ('f' :: 'a' :: 'l' :: 's' :: 'e' :: rest) rest
  | number {cs rest} : Magnitude cs rest → Value cs rest
  | negative {cs rest} : Magnitude cs rest → Value ('-' :: cs) rest
  | text {cs rest} : Body cs rest → Value ('"' :: cs) rest
  | emptyArray {cs rest} : Gap cs (']' :: rest) → Value ('[' :: cs) rest
  | array {cs rest} : Items Value cs rest → Value ('[' :: cs) rest
  | emptyObject {cs rest} : Gap cs ('}' :: rest) → Value ('{' :: cs) rest
  | object {cs rest} : Members Body Value cs rest → Value ('{' :: cs) rest

/-- A text that is one value. -/
def Document (cs : List Char) : Prop := ∃ v a, Gap cs v ∧ Value v a ∧ Gap a []

/-- A text that is an object whose values are all texts. -/
def FlatDocument (cs : List Char) : Prop :=
  ∃ v a, Gap cs ('{' :: v) ∧ (Gap v ('}' :: a) ∨ Members Body (Quoted Body) v a) ∧ Gap a []

end MailMerge.Json
