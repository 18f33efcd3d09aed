import MailMerge.Decimal.Binary64

/-!
# The shortest decimal of a number

A number is written with the fewest decimal digits that read back as the same number; of several
such decimals the nearest is taken. The decimals that read back as m · 2^e are those between its two
neighbours' midpoints, the midpoints included when m is even.

For one digit, two digits and so on the two neighbours of the number on that decimal grid are tried;
a grid that has a point in the interval has one of them there.
-/

namespace MailMerge.Decimal

/-- The digits of a decimal d.ddd · 10^exponent, the first one not zero. -/
structure Shortest where
  digits : List Nat
  exponent : Int
  deriving DecidableEq, Repr

/-- A quotient times a power of ten, as numerator and denominator. -/
private def scaleTen (num den : Nat) (e : Int) : Nat × Nat :=
  if e < 0 then (num, den * Nat.pow 10 (-e).toNat) else (num * Nat.pow 10 e.toNat, den)

/-- The largest k with 10^k at most the quotient, found from a guess by small steps. -/
private def log10 (num den : Nat) : Int :=
  let guess : Int := ((num.log2 : Int) - (den.log2 : Int)) * 30103 / 100000 - 1
  let step (k : Int) : Int :=
    let (n, d) := scaleTen num den (-(k + 1))
    if d ≤ n then k + 1 else k
  step (step (step guess))

/-- The digits of a natural number. -/
private def digitsOf (n : Nat) : List Nat := (Nat.toDigits 10 n).map fun c => c.toNat - '0'.toNat

/-- Tries grids from `count` digits on; the list recursed on counts the grids that may be tried. -/
private def onGrid (m : Nat) (e : Int) (k : Int) : List Unit → Nat → Shortest
  | [], _ => ⟨[0], 0⟩
  | _ :: more, count =>
    -- everything in units of a quarter of the last binary digit: the number is 4 m
    let s := k - (count - 1 : Nat)
    let (vn, vd) := Binary64.scale (4 * m) 4 e
    let narrow := m = Nat.pow 2 (Binary64.digits - 1) ∧ Binary64.minExponent < e
    let (ln, ld) := Binary64.scale (4 * m - if narrow then 1 else 2) 4 e
    let (hn, hd) := Binary64.scale (4 * m + 2) 4 e
    let (n, d) := scaleTen vn vd (-s)
    let below := n / d
    let above := below + 1
    let inside (c : Nat) : Bool :=
      let (cn, cd) := scaleTen c 1 s
      let lo := ln * cd
      let mid₁ := cn * ld
      let mid₂ := cn * hd
      let hi := hn * cd
      if m % 2 = 0 then lo ≤ mid₁ && mid₂ ≤ hi else lo < mid₁ && mid₂ < hi
    let pick (c : Nat) : Shortest :=
      let ds := digitsOf c
      ⟨ds, s + (ds.length - 1 : Nat)⟩
    match inside below && below ≠ 0, inside above with
    | true, true =>
      let r := 2 * (n % d)
      pick (if r < d then below else if d < r then above else below + below % 2)
    | true, false => pick below
    | false, true => pick above
    | false, false => onGrid m e k more (count + 1)

/-- The digits without the zeros at the end, which say nothing. -/
private def dropZeros (ds : List Nat) : List Nat := (ds.reverse.dropWhile (· = 0)).reverse

/-- The shortest decimal of a finite number that is not zero. -/
def shortest (m : Nat) (e : Int) : Shortest :=
  let (n, d) := Binary64.scale m 1 e
  let found := onGrid m e (log10 n d) (List.replicate 17 ()) 1
  { found with digits := dropZeros found.digits }

end MailMerge.Decimal
