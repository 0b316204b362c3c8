/-
**Lengths of time.**

A length of time is shown in the largest unit of which it holds at least one, with as many decimal
places as it needs.

Main definitions:

* `Duration` — lengths of time, to the nanosecond;
* `Duration.display` — the text of one.
-/

set_option autoImplicit false

namespace WebDriverClient

/-- A length of time. -/
structure Duration where
  nanoseconds : Nat
deriving DecidableEq, Repr

namespace Duration

/-- A length of time in milliseconds. -/
def ofMilliseconds (n : Nat) : Duration := ⟨n * 1000000⟩

/-- The whole milliseconds of a length of time. -/
def milliseconds (d : Duration) : Nat := d.nanoseconds / 1000000

/-- The digits after the point: `n` in the given number of places, without zeros at the end. -/
def places (count n : Nat) : List Char :=
  let digits := Nat.toDigits 10 n
  let padded := List.replicate (count - digits.length) '0' ++ digits
  (padded.reverse.dropWhile (· == '0')).reverse

/-- A number of nanoseconds in a unit of `10 ^ count` of them. -/
def inUnit (nanoseconds count : Nat) (unit : String) : String :=
  let size := Nat.pow 10 count
  let after := places count (nanoseconds % size)
  let point := if after.isEmpty then [] else '.' :: after
  toString (nanoseconds / size) ++ String.ofList point ++ unit

/-- The text of a length of time. -/
def display (d : Duration) : String :=
  if Nat.pow 10 9 ≤ d.nanoseconds then inUnit d.nanoseconds 9 "s"
  else if Nat.pow 10 6 ≤ d.nanoseconds then inUnit d.nanoseconds 6 "ms"
  else if Nat.pow 10 3 ≤ d.nanoseconds then inUnit d.nanoseconds 3 "µs"
  else inUnit d.nanoseconds 0 "ns"

end Duration

end WebDriverClient
