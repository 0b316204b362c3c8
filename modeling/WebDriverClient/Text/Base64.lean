/-
**Base64.**

Three bytes are four characters of the standard alphabet, and a shorter group at the end is padded
to four characters.  Only the one encoding of a byte string is accepted: the padding must be there
and the bits that it leaves over must be zero.

Main definitions:

* `Base64.encode` — the encoding;
* `Base64.decode?` — the bytes of an encoding, if it is one.
-/

set_option autoImplicit false

namespace WebDriverClient.Base64

/-- The character of a number below 64. -/
def digit (n : Nat) : Char :=
  if n < 26 then Char.ofNat (0x41 + n)
  else if n < 52 then Char.ofNat (0x61 + (n - 26))
  else if n < 62 then Char.ofNat (0x30 + (n - 52))
  else if n = 62 then '+' else '/'

/-- The number of a character. -/
def value? (c : Char) : Option Nat :=
  if 'A' ≤ c ∧ c ≤ 'Z' then some (c.toNat - 0x41)
  else if 'a' ≤ c ∧ c ≤ 'z' then some (c.toNat - 0x61 + 26)
  else if '0' ≤ c ∧ c ≤ '9' then some (c.toNat - 0x30 + 52)
  else if c = '+' then some 62
  else if c = '/' then some 63
  else none

/-- The encoding of a byte string. -/
def encode : List UInt8 → List Char
  | [] => []
  | [a] => [digit (a.toNat / 4), digit (a.toNat % 4 * 16), '=', '=']
  | [a, b] =>
    [digit (a.toNat / 4), digit (a.toNat % 4 * 16 + b.toNat / 16), digit (b.toNat % 16 * 4), '=']
  | a :: b :: c :: rest =>
    digit (a.toNat / 4) :: digit (a.toNat % 4 * 16 + b.toNat / 16)
      :: digit (b.toNat % 16 * 4 + c.toNat / 64) :: digit (c.toNat % 64) :: encode rest

/-- The bytes of four digits. -/
def group? (a b c d : Char) : Option (List UInt8) :=
  match value? a, value? b, value? c, value? d with
  | some w, some x, some y, some z =>
    some [(w * 4 + x / 16).toUInt8, (x % 16 * 16 + y / 4).toUInt8, (y % 4 * 64 + z).toUInt8]
  | _, _, _, _ => none

/-- The bytes of a last group, which may be padded. -/
def lastGroup? (a b c d : Char) : Option (List UInt8) :=
  if d = '=' then
    if c = '=' then
      match value? a, value? b with
      | some w, some x => if x % 16 = 0 then some [(w * 4 + x / 16).toUInt8] else none
      | _, _ => none
    else
      match value? a, value? b, value? c with
      | some w, some x, some y =>
        if y % 4 = 0 then some [(w * 4 + x / 16).toUInt8, (x % 16 * 16 + y / 4).toUInt8] else none
      | _, _, _ => none
  else group? a b c d

/-- The bytes of an encoding, if it is one. -/
def decode? : List Char → Option (List UInt8)
  | [] => some []
  | [a, b, c, d] => lastGroup? a b c d
  | a :: b :: c :: d :: rest =>
    match group? a b c d, decode? rest with
    | some bytes, some more => some (bytes ++ more)
    | _, _ => none
  | _ => none

end WebDriverClient.Base64
