/-!
# Numbers with 53 binary digits

The non-negative numbers m · 2^e with m < 2^53 and -1074 ≤ e ≤ 971, as exact values, and the largest
of them passed: infinity. Every operation computes the exact result and rounds it once, to the
nearest number and in the middle to the one with even m. All arithmetic is on natural numbers.
-/

namespace MailMerge.Decimal

/-- A quotient rounded to the nearest natural number, the even one in the middle. -/
def roundDiv (num den : Nat) : Nat :=
  let q := num / den
  let r := num % den
  if 2 * r < den then q else if den < 2 * r then q + 1 else q + q % 2

/-- A non-negative number with at most 53 binary digits, or infinity. -/
inductive Binary64 where
  | finite (mantissa : Nat) (exponent : Int)
  | infinite
  deriving DecidableEq, Repr

namespace Binary64

/-- The number of mantissa digits. -/
def digits : Nat := 53

/-- The exponent of the smallest numbers. -/
def minExponent : Int := -1074

/-- The exponent of the largest numbers. -/
def maxExponent : Int := 971

/-- Numerator and denominator of x · 2^e, for natural numbers with the quotient x. -/
def scale (num den : Nat) (e : Int) : Nat × Nat :=
  if e < 0 then (num, den * Nat.pow 2 (-e).toNat) else (num * Nat.pow 2 e.toNat, den)

/-- The number nearest to a quotient. -/
def ofRatio (num den : Nat) : Binary64 :=
  if num = 0 then .finite 0 0
  else
    -- 2^(guess - 1) < num / den < 2^(guess + 1)
    let guess : Int := (num.log2 : Int) - (den.log2 : Int)
    let (n, d) := scale num den (-guess)
    let top := if n < d then guess - 1 else guess
    let e := max minExponent (top - (digits - 1 : Nat))
    let (n, d) := scale num den (-e)
    let m := roundDiv n d
    let (m, e) := if m = Nat.pow 2 digits then (Nat.pow 2 (digits - 1), e + 1) else (m, e)
    if maxExponent < e then .infinite else .finite m e

/-- The number nearest to a natural number. -/
def ofNat (n : Nat) : Binary64 := ofRatio n 1

/-- Numerator and denominator of a number. Infinity has none. -/
def ratio? : Binary64 → Option (Nat × Nat)
  | .finite m e => some (scale m 1 e)
  | .infinite => none

def mul (x y : Binary64) : Binary64 :=
  match x.ratio?, y.ratio? with
  | some (a, b), some (c, d) => ofRatio (a * c) (b * d)
  | _, _ => .infinite

/-- The quotient, for a finite `x` and a `y` that is finite and not zero. -/
def div (x y : Binary64) : Binary64 :=
  match x.ratio?, y.ratio? with
  | some (a, b), some (c, d) => ofRatio (a * d) (b * c)
  | _, _ => .infinite

def isZero : Binary64 → Bool
  | .finite m _ => m = 0
  | .infinite => false

end Binary64
end MailMerge.Decimal
