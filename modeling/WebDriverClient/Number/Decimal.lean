/-
**Decimal notation of doubles.**

A decimal is a string of digits and a power of ten.  A double is written with the fewest digits
that round to it: the reals that do form an interval around it, whose ends belong to it when the
significand is even, and on each decimal grid only the two points around the value can be the
nearest of those inside the interval.

Main definitions:

* `Decimal.shortest` — the shortest decimal that rounds to a given double;
* `Decimal.Style` — which exponents are written positionally, and how the others are;
* `Decimal.write` — the text of a double in such a style.
-/

import WebDriverClient.Number.Double

set_option autoImplicit false

namespace WebDriverClient

/-- The number `digits * 10 ^ exponent`. -/
structure Decimal where
  digits : Nat
  exponent : Int
deriving Repr, DecidableEq, Inhabited

namespace Decimal

/-- The decimal digits of a natural. -/
def digitChars (n : Nat) : List Char := Nat.toDigits 10 n

/-- How many decimal digits a natural has. -/
def digitCount (n : Nat) : Nat := (digitChars n).length

/-- A fraction `num / den` of naturals. -/
structure Fraction where
  num : Nat
  den : Nat

/-- `m * 2 ^ q`. -/
def Fraction.ofBinary (m : Nat) (q : Int) : Fraction :=
  if 0 ≤ q then ⟨m * Nat.pow 2 q.toNat, 1⟩ else ⟨m, Nat.pow 2 (-q).toNat⟩

/-- `m * 10 ^ e`. -/
def Fraction.ofDecimal (m : Nat) (e : Int) : Fraction :=
  if 0 ≤ e then ⟨m * Nat.pow 10 e.toNat, 1⟩ else ⟨m, Nat.pow 10 (-e).toNat⟩

/-- `a < b`. -/
def Fraction.lt (a b : Fraction) : Bool := a.num * b.den < b.num * a.den

/-- `a ≤ b`. -/
def Fraction.le (a b : Fraction) : Bool := a.num * b.den ≤ b.num * a.den

/-- `a / b`, rounded down. -/
def Fraction.floorDiv (a b : Fraction) : Nat := (a.num * b.den) / (a.den * b.num)

/-- The distance of two fractions. -/
def Fraction.distance (a b : Fraction) : Fraction :=
  let x := a.num * b.den
  let y := b.num * a.den
  ⟨if x ≤ y then y - x else x - y, a.den * b.den⟩

/-- The lower end of the interval of reals that round to a positive double. -/
def lowerEnd (d : Double) : Fraction :=
  if d.significand = Nat.pow 2 52 ∧ -1074 < d.exponent then
    .ofBinary (4 * d.significand - 1) (d.exponent - 2)
  else .ofBinary (2 * d.significand - 1) (d.exponent - 1)

/-- The upper end of that interval. -/
def upperEnd (d : Double) : Fraction := .ofBinary (2 * d.significand + 1) (d.exponent - 1)

/-- The fraction rounds to the double. -/
def roundsTo (d : Double) (f : Fraction) : Bool :=
  if d.significand % 2 = 0 then (lowerEnd d).le f && f.le (upperEnd d)
  else (lowerEnd d).lt f && f.lt (upperEnd d)

/-- The point of the grid `10 ^ e` that rounds to the double and is nearest to it, if one does. -/
def onGrid? (d : Double) (e : Int) : Option Decimal :=
  let value := Fraction.ofBinary d.significand d.exponent
  let below := value.floorDiv (.ofDecimal 1 e)
  let gap (n : Nat) := (Fraction.ofDecimal n e).distance value
  let fits (n : Nat) := n ≠ 0 && roundsTo d (.ofDecimal n e)
  match fits below, fits (below + 1) with
  | true, true =>
    let upper := (gap (below + 1)).lt (gap below)
      || (!(gap below).lt (gap (below + 1)) && below % 2 == 1)
    some ⟨if upper then below + 1 else below, e⟩
  | true, false => some ⟨below, e⟩
  | false, true => some ⟨below + 1, e⟩
  | false, false => none

/-- The first grid from `10 ^ e` down, among `n` of them, with a point that rounds to the double. -/
def search (d : Double) : Nat → Int → Option Decimal
  | 0, _ => none
  | n + 1, e => (onGrid? d e).orElse fun _ => search d n (e - 1)

/-- A power of ten above a positive double, at most a hundred times larger. -/
def magnitude (d : Double) : Int :=
  let value := Fraction.ofBinary d.significand d.exponent
  let whole := value.num / value.den
  if whole ≠ 0 then digitCount whole else 2 - (digitCount (value.den / value.num) : Int)

/-- The shortest decimal that rounds to the double, and the nearest of those.  Seventeen digits
always suffice, so twenty grids below the magnitude do. -/
def shortest (d : Double) : Decimal :=
  if d.significand = 0 then ⟨0, 0⟩ else (search d 20 (magnitude d)).getD ⟨0, 0⟩

/-- How a decimal is written.  With `point` digits before the decimal point, the positional form is
used for `least < point ≤ most`. -/
structure Style where
  /-- The positional form needs more digits before the point than this. -/
  least : Int
  /-- The positional form needs at most as many digits before the point as this. -/
  most : Int

/-- The fractional part that is always written. -/
def fraction (digits : List Char) : List Char := '.' :: (if digits.isEmpty then ['0'] else digits)

/-- The digits of a decimal, positionally, where `point` digits stand before the point. -/
def positional (digits : List Char) (point : Int) : List Char :=
  if point ≤ 0 then '0' :: fraction (List.replicate (-point).toNat '0' ++ digits)
  else
    let n := point.toNat
    (digits ++ List.replicate (n - digits.length) '0').take n ++ fraction (digits.drop n)

/-- The digits of a decimal with a signed exponent. -/
def scientific (digits : List Char) (point : Int) : List Char :=
  let exponent := point - 1
  let mantissa := match digits with
    | [] => []
    | d :: rest => d :: (if rest.isEmpty then [] else '.' :: rest)
  mantissa ++ ['e', if exponent < 0 then '-' else '+'] ++ digitChars exponent.natAbs

/-- The text of a double. -/
def write (style : Style) (d : Double) : String :=
  let decimal := shortest d
  let digits := digitChars decimal.digits
  let point := decimal.exponent + digits.length
  let body :=
    if decimal.digits = 0 then ['0', '.', '0']
    else if style.least < point ∧ point ≤ style.most then positional digits point
    else scientific digits point
  String.ofList (if d.negative then '-' :: body else body)

end Decimal

end WebDriverClient
