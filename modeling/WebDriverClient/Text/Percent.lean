/-
**Percent-encoding.**

A text is written byte by byte: a byte of some set as its ASCII character, and any other as a
percent sign and two upper-case hexadecimal digits.

Main definitions:

* `Percent.encode` — the encoding that leaves a given set of bytes alone;
* `Percent.isUnreserved` — the bytes that stand for themselves in every part of an address;
* `Percent.decode` — the bytes that an encoded text stands for.
-/

import WebDriverClient.Text.Utf8

set_option autoImplicit false

namespace WebDriverClient.Percent

/-- The upper-case digit of a number below sixteen. -/
def hexDigit (n : Nat) : Char := if n < 10 then Char.ofNat (0x30 + n) else Char.ofNat (0x37 + n)

/-- The form of one byte. -/
def encodeByte (keep : UInt8 → Bool) (b : UInt8) : List Char :=
  if keep b then [Char.ofNat b.toNat]
  else ['%', hexDigit (b.toNat / 16), hexDigit (b.toNat % 16)]

/-- The encoding that leaves the bytes of a set alone. -/
def encode (keep : UInt8 → Bool) (s : String) : List Char :=
  (Utf8.encode s).flatMap (encodeByte keep)

/-- ASCII letters and digits, hyphen, underscore, period and tilde. -/
def isUnreserved (b : UInt8) : Bool :=
  (0x30 ≤ b && b ≤ 0x39) || (0x41 ≤ b && b ≤ 0x5A) || (0x61 ≤ b && b ≤ 0x7A)
    || b == 0x2D || b == 0x5F || b == 0x2E || b == 0x7E

/-- The value of a hexadecimal digit. -/
def hexValue? (b : UInt8) : Option UInt8 :=
  if 0x30 ≤ b && b ≤ 0x39 then some (b - 0x30)
  else if 0x41 ≤ b && b ≤ 0x46 then some (b - 0x37)
  else if 0x61 ≤ b && b ≤ 0x66 then some (b - 0x57)
  else none

/-- The bytes that an encoded text stands for.  A percent sign without two digits after it stands
for itself. -/
def decode : List UInt8 → List UInt8
  | [] => []
  | 0x25 :: a :: b :: rest =>
    match hexValue? a, hexValue? b with
    | some x, some y => (x * 16 + y) :: decode rest
    | _, _ => 0x25 :: decode (a :: b :: rest)
  | b :: rest => b :: decode rest

end WebDriverClient.Percent
