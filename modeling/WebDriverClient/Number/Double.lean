/-
**Finite double-precision numbers.**

A number is a sign, a significand of at most 53 bits and a power of two.  The form is canonical:
a number above the least binade has a significand of exactly 53 bits, so two numbers are equal
exactly when their three parts are, and the two zeros stay apart.

Main definitions:

* `Double` — the finite numbers;
* `Double.nearest?` — the number nearest to a fraction, a tie going to the even significand;
* `Double.ofInt` — the number nearest to an integer of 64 bits;
* `Double.mul?`, `Double.div?` — the product and the quotient, rounded;
* `Double.alike` — equality that does not tell the two zeros apart.
-/

set_option autoImplicit false

namespace WebDriverClient

/-- The significand and exponent are those of a finite double in canonical form. -/
def Double.Canonical (significand : Nat) (exponent : Int) : Prop :=
  significand < Nat.pow 2 53 ∧ -1074 ≤ exponent ∧ exponent ≤ 971
    ∧ (Nat.pow 2 52 ≤ significand ∨ exponent = -1074)

instance (m : Nat) (q : Int) : Decidable (Double.Canonical m q) :=
  inferInstanceAs (Decidable (_ ∧ _ ∧ _ ∧ _))

/-- A finite double: `significand * 2 ^ exponent`, negated if `negative`. -/
structure Double where
  negative : Bool
  /-- The significand, an integer of at most 53 bits. -/
  significand : Nat
  exponent : Int
  canonical : Double.Canonical significand exponent
deriving DecidableEq

namespace Double

/-- The zero of the given sign. -/
def zero (negative : Bool) : Double := ⟨negative, 0, -1074, by decide⟩

instance : Inhabited Double := ⟨zero false⟩

/-- The quotient of two naturals, rounded to the nearest, a tie going to the even neighbour. -/
def roundDiv (num den : Nat) : Nat :=
  let quotient := num / den
  let twice := 2 * (num % den)
  if twice > den || (twice == den && quotient % 2 == 1) then quotient + 1 else quotient

/-- `num / den` in units of `2 ^ exponent`, rounded. -/
def inUnits (num den : Nat) (exponent : Int) : Nat :=
  if 0 ≤ exponent then roundDiv num (den * Nat.pow 2 exponent.toNat)
  else roundDiv (num * Nat.pow 2 (-exponent).toNat) den

/-- The exponent at which `num / den` has a significand of 53 bits, or the least one. -/
def exponentFor (num den : Nat) : Int :=
  let estimate : Int := (Nat.log2 num : Int) - Nat.log2 den - 53
  let bits53 (e : Int) : Bool :=
    if 0 ≤ e then num < den * Nat.pow 2 (e.toNat + 53)
    else num * Nat.pow 2 (-e).toNat < den * Nat.pow 2 53
  max (-1074) (if bits53 estimate then estimate else estimate + 1)

/-- The double nearest to `num / den`; `none` when it is too large for a finite one. -/
def nearest? (negative : Bool) (num den : Nat) : Option Double :=
  let exponent := exponentFor num den
  let significand := inUnits num den exponent
  let (significand, exponent) :=
    if significand = Nat.pow 2 53 then (Nat.pow 2 52, exponent + 1) else (significand, exponent)
  if h : Canonical significand exponent then some ⟨negative, significand, exponent, h⟩ else none

/-- The double nearest to an integer; integers of 64 bits are always in range. -/
def ofInt (i : Int) : Double :=
  (nearest? (i < 0) i.natAbs 1).getD (zero (i < 0))

/-- The double nearest to `num / den * 2 ^ exponent`; `none` when it is too large for a finite
one. -/
def ofQuotient? (negative : Bool) (num den : Nat) (exponent : Int) : Option Double :=
  if num = 0 then some (zero negative)
  else if 0 ≤ exponent then nearest? negative (num * Nat.pow 2 exponent.toNat) den
  else nearest? negative num (den * Nat.pow 2 (-exponent).toNat)

/-- The product, rounded; `none` when it is too large for a finite double. -/
def mul? (a b : Double) : Option Double :=
  ofQuotient? (a.negative != b.negative) (a.significand * b.significand) 1
    (a.exponent + b.exponent)

/-- The quotient, rounded; `none` when it is too large for a finite double or there is none. -/
def div? (a b : Double) : Option Double :=
  if b.significand = 0 then none
  else ofQuotient? (a.negative != b.negative) a.significand b.significand
    (a.exponent - b.exponent)

/-- Equal as numbers: the two zeros count as the same. -/
def alike (a b : Double) : Bool :=
  a == b || (a.significand == 0 && b.significand == 0)

end Double

end WebDriverClient
