/-
**Numerals read in two steps.**

A numeral has digits before the point, digits after it, and a power of ten.  First its digits are
read as one integer, as long as that fits into 64 bits, and the integer is rounded to a double.
Then the double is multiplied or divided by a power of ten, which rounds again; a division by more
than the greatest power of ten below the greatest double is made in several steps.

Main definitions:

* `Numeral` — a numeral, and `Numeral.leading`, its digits as one integer;
* `Double.scale?` — a double times a power of ten;
* `Numeral.toDouble?` — the double that a numeral is read as.
-/

import WebDriverClient.Number.Double

set_option autoImplicit false

namespace WebDriverClient

/-! ### Powers of ten -/

namespace Double

/-- The greatest power of ten that a double can be near to. -/
def mostTens : Nat := 308

/-- The double nearest to `10 ^ n`. -/
def tenTo? (n : Nat) : Option Double :=
  if n ≤ mostTens then nearest? false (Nat.pow 10 n) 1 else none

/-- A double times `10 ^ n`; `none` when it is too large for a finite one. -/
def timesTenTo? (d : Double) (n : Nat) : Option Double :=
  if d.significand = 0 then some d else (tenTo? n).bind d.mul?

/-- A double divided by `10 ^ n`, in steps of at most `10 ^ 308`. -/
def overTenTo? (d : Double) (n : Nat) : Option Double :=
  if n ≤ mostTens then (tenTo? n).bind d.div?
  else if d.significand = 0 then some d
  else ((tenTo? mostTens).bind d.div?).bind fun d => overTenTo? d (n - mostTens)
termination_by n
decreasing_by simp only [mostTens] at *; omega

/-- A double times a power of ten; `none` when it is too large for a finite one. -/
def scale? (d : Double) : Int → Option Double
  | .ofNat n => d.timesTenTo? n
  | .negSucc n => d.overTenTo? (n + 1)

end Double

/-! ### Numerals -/

/-- A numeral with a sign. -/
structure Numeral where
  negative : Bool
  whole : List Nat
  fraction : List Nat
  power : Int
deriving Repr, DecidableEq

namespace Numeral

/-- Reads digits as long as the integer fits into 64 bits, and tells how many are left. -/
def leading (n : Nat) : List Nat → Nat × Nat
  | [] => (n, 0)
  | d :: ds => if n * 10 + d < Nat.pow 2 64 then leading (n * 10 + d) ds else (n, ds.length + 1)

/-- The double that a numeral is read as; `none` when it is too large for a finite one.  A digit
that does not fit counts as a zero before the point, and after the point it does not count. -/
def toDouble? (n : Numeral) : Option Double :=
  let (whole, zeros) := leading 0 n.whole
  let (digits, left) := leading whole n.fraction
  let places := n.fraction.length - left
  (Double.ofQuotient? n.negative digits 1 0).bind (·.scale? (n.power + zeros - places))

end Numeral

end WebDriverClient
