/-
**IPv6 addresses.**

An address is eight pieces of 16 bits.  It is written in hexadecimal with colons between the
pieces; two colons stand for a run of zeros, once, and the last two pieces may be written as an IPv4
address.  It is shown with the first of the longest runs of zeros left out.

Main definitions:

* `Ipv6` — the addresses;
* `Ipv6.parse?` — reads an address;
* `Ipv6.text` — the form of an address.
-/

import WebDriverClient.Url.Ipv4

set_option autoImplicit false

namespace WebDriverClient.Url

/-- An IPv6 address. -/
structure Ipv6 where
  pieces : List UInt16
  length_eq : pieces.length = 8
deriving DecidableEq, Repr

namespace Ipv6

/-! ### Reading -/

/-- Reads a piece: one to four hexadecimal digits. -/
def piece? (s : List Char) : Option UInt16 :=
  if s.isEmpty || 4 < s.length then none else (numeral? 16 s).map .ofNat

/-- The two pieces of an IPv4 address. -/
def ofIpv4 (a : Ipv4) : List UInt16 :=
  [.ofNat (a.value.toNat / 65536), .ofNat (a.value.toNat % 65536)]

/-- Reads pieces, the last of which may be an IPv4 address if `embedded` holds. -/
def pieces? (embedded : Bool) : List (List Char) → Option (List UInt16)
  | [] => some []
  | [last] =>
    if embedded && last.contains '.' then (Ipv4.octets? last).map ofIpv4
    else (piece? last).map ([·])
  | s :: rest => do return (← piece? s) :: (← pieces? embedded rest)

/-- Reads the pieces on one side of two colons, where there may be none. -/
def side? (embedded : Bool) (s : List Char) : Option (List UInt16) :=
  if s.isEmpty then some [] else pieces? embedded (s.splitOnP (· = ':'))

/-- The texts before and after the first two colons. -/
def splitAtGap : List Char → Option (List Char × List Char)
  | ':' :: ':' :: rest => some ([], rest)
  | [] => none
  | c :: rest => (splitAtGap rest).map fun sides => (c :: sides.1, sides.2)

/-- The address of pieces, if there are eight. -/
def ofPieces? (pieces : List UInt16) : Option Ipv6 :=
  if h : pieces.length = 8 then some ⟨pieces, h⟩ else none

/-- Reads an address. -/
def parse? (s : List Char) : Option Ipv6 :=
  match splitAtGap s with
  | none => do ofPieces? (← pieces? true (s.splitOnP (· = ':')))
  | some (left, right) => do
    let left ← side? false left
    let right ← side? true right
    if left.length + right.length < 8 then
      ofPieces? (left ++ List.replicate (8 - (left.length + right.length)) 0 ++ right)
    else none

/-! ### Showing -/

/-- The lower-case hexadecimal digits of a piece. -/
def pieceText (p : UInt16) : List Char := Nat.toDigits 16 p.toNat

/-- Pieces with colons between them. -/
def joined (pieces : List UInt16) : List Char :=
  (pieces.map pieceText).intersperse [':'] |>.flatten

/-- The length of the run of zeros that a list begins with. -/
def zeros (pieces : List UInt16) : Nat := (pieces.takeWhile (· = 0)).length

/-- The start and the length of the first of the longest runs of zeros. -/
def longestRun : List UInt16 → Nat × Nat
  | [] => (0, 0)
  | p :: rest =>
    let (start, length) := longestRun rest
    let here := zeros (p :: rest)
    if length ≤ here then (0, here) else (start + 1, length)

/-- The form of an address. -/
def text (a : Ipv6) : List Char :=
  let (start, length) := longestRun a.pieces
  if length < 2 then joined a.pieces
  else joined (a.pieces.take start) ++ [':', ':'] ++ joined (a.pieces.drop (start + length))

end Ipv6

end WebDriverClient.Url
