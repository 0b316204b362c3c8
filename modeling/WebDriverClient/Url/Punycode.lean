/-
**Punycode.**

A label with characters outside of ASCII is written in ASCII: first its ASCII characters, then for
each other character, in the order of the code points, how far it is from the one before, where a
step goes from one position to the next and, after the last position, to the next code point.  The
distances are numbers in base 36 with digits of varying weight, which adapt to the distances so far.

Main definitions:

* `Punycode.encode` — the ASCII form of a label;
* `Punycode.decode?` — the label of an ASCII form.
-/

set_option autoImplicit false

namespace WebDriverClient.Url.Punycode

/-! ### Numbers of varying weight -/

/-- The threshold at a weight: a digit below it is the last. -/
def threshold (weight bias : Nat) : Nat := max 1 (min 26 (weight - bias))

/-- The threshold leaves room for a digit that is not the last. -/
theorem threshold_bounds (weight bias : Nat) :
    1 ≤ threshold weight bias ∧ threshold weight bias ≤ 26 := by
  unfold threshold
  omega

/-- The character of a digit. -/
def digitChar (d : Nat) : Char := if d < 26 then Char.ofNat (0x61 + d) else Char.ofNat (0x16 + d)

/-- The digit of a character. -/
def digit? (c : Char) : Option Nat :=
  if 'a' ≤ c ∧ c ≤ 'z' then some (c.toNat - 0x61)
  else if 'A' ≤ c ∧ c ≤ 'Z' then some (c.toNat - 0x41)
  else if '0' ≤ c ∧ c ≤ '9' then some (c.toNat - 0x30 + 26)
  else none

/-- The digits of a number from a weight on. -/
def digits (bias weight q : Nat) : List Char :=
  let t := threshold weight bias
  if q < t then [digitChar q]
  else digitChar (t + (q - t) % (36 - t)) :: digits bias (weight + 36) ((q - t) / (36 - t))
termination_by q
decreasing_by
  have bounds := threshold_bounds weight bias
  have step := Nat.div_le_self (q - threshold weight bias) (36 - threshold weight bias)
  omega

/-- The bias for a scaled distance. -/
def biasOf (k delta : Nat) : Nat :=
  if 455 < delta then biasOf (k + 36) (delta / 35) else k + 36 * delta / (delta + 38)
termination_by delta
decreasing_by omega

/-- The bias after a distance, which was the `count`th. -/
def adapt (delta count : Nat) (first : Bool) : Nat :=
  let delta := if first then delta / 700 else delta / 2
  biasOf 0 (delta + delta / count)

/-! ### Encoding -/

/-- What has been written of a label. -/
structure Writing where
  /-- The digits, in reverse. -/
  output : List Char := []
  /-- The code point that has been reached. -/
  reached : Nat := 0x80
  /-- The distance since the last character that was written. -/
  delta : Nat := 0
  bias : Nat := 72
  /-- How many characters have been written. -/
  written : Nat

/-- Passes a position of the label, where the character is written if it is the one that has been
reached. -/
def Writing.pass (basic : Nat) (w : Writing) (c : Char) : Writing :=
  if c.toNat < w.reached then { w with delta := w.delta + 1 }
  else if c.toNat = w.reached then
    { w with
      output := (digits w.bias 36 w.delta).reverse ++ w.output
      bias := adapt w.delta (w.written + 1) (w.written = basic)
      delta := 0
      written := w.written + 1 }
  else w

/-- Goes on to a code point and writes it wherever it stands in the label. -/
def Writing.reach (basic : Nat) (label : List Char) (w : Writing) (n : Nat) : Writing :=
  let w := { w with delta := w.delta + (n - w.reached) * (w.written + 1), reached := n }
  let w := label.foldl (Writing.pass basic) w
  { w with delta := w.delta + 1, reached := n + 1 }

/-- The code points outside of ASCII, in their order, each once. -/
def extended (label : List Char) : List Nat :=
  (((label.map Char.toNat).filter (0x80 ≤ ·)).mergeSort (· ≤ ·)).eraseReps

/-- The ASCII form of a label. -/
def encode (label : List Char) : List Char :=
  let basic := label.filter (·.toNat < 0x80)
  let start : Writing := { written := basic.length }
  let w := (extended label).foldl (Writing.reach basic.length label) start
  basic ++ (if basic.isEmpty then [] else ['-']) ++ w.output.reverse

/-! ### Decoding -/

/-- What has been read of an ASCII form. -/
structure Reading where
  output : List Char
  /-- The code point that has been reached. -/
  reached : Nat := 0x80
  position : Nat := 0
  bias : Nat := 72
  /-- The distance that has been read of the current number. -/
  delta : Nat := 0
  /-- The factor of the next digit. -/
  factor : Nat := 1
  /-- The weight of the next digit. -/
  weight : Nat := 36

/-- Puts a character into the label where a distance leads. -/
def Reading.insert? (r : Reading) (delta : Nat) : Option Reading :=
  let count := r.output.length + 1
  let position := r.position + delta
  let n := r.reached + position / count
  let place := position % count
  if n.isValidChar then
    some {
      output := r.output.take place ++ Char.ofNat n :: r.output.drop place
      reached := n
      position := place + 1
      bias := adapt delta count (r.position = 0) }
  else none

/-- Reads a digit. -/
def Reading.read? (r : Reading) (c : Char) : Option Reading := do
  let d ← digit? c
  let t := threshold r.weight r.bias
  let delta := r.delta + d * r.factor
  if d < t then r.insert? delta
  else some { r with delta, factor := r.factor * (36 - t), weight := r.weight + 36 }

/-- The label of an ASCII form. -/
def decode? (s : List Char) : Option (List Char) := do
  let basic := ((s.reverse.dropWhile (· ≠ '-')).drop 1).reverse
  let rest := (s.reverse.takeWhile (· ≠ '-')).reverse
  guard (basic.all (·.toNat < 0x80))
  let r ← rest.foldlM Reading.read? { output := basic }
  if r.weight = 36 then some r.output else none

end WebDriverClient.Url.Punycode
