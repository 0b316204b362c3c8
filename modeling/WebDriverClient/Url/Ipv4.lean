/-
**IPv4 addresses.**

An address is a number of 32 bits.  It may be written as up to four numbers with periods between
them, each decimal, octal or hexadecimal; the last one fills the bytes that the others leave.  It
is always shown as four decimal numbers.

Main definitions:

* `Ipv4` — the addresses, and `Ipv4.text`, their form;
* `Ipv4.number?` — reads one number;
* `Ipv4.endsInNumber` — the texts that can only be addresses;
* `Ipv4.parse?` — reads an address;
* `Ipv4.octets?` — reads an address in its own form, as it stands at the end of an IPv6 address.
-/

set_option autoImplicit false

namespace WebDriverClient.Url

/-- An IPv4 address. -/
structure Ipv4 where
  value : UInt32
deriving DecidableEq, Repr

/-- The value of a digit in a base up to sixteen. -/
def digitValue? (base : Nat) (c : Char) : Option Nat :=
  let value :=
    if '0' ≤ c ∧ c ≤ '9' then c.toNat - 0x30
    else if 'a' ≤ c ∧ c ≤ 'f' then c.toNat - 0x57
    else if 'A' ≤ c ∧ c ≤ 'F' then c.toNat - 0x37
    else base
  if value < base then some value else none

/-- The number that digits of a base stand for; no digits stand for zero. -/
def numeral? (base : Nat) (digits : List Char) : Option Nat :=
  digits.foldl (fun value c => do return (← value) * base + (← digitValue? base c)) (some 0)

/-- The decimal digits of a number. -/
def decimal (n : Nat) : List Char := Nat.toDigits 10 n

namespace Ipv4

/-- The byte of an address at a place from the left. -/
def octet (a : Ipv4) (place : Nat) : Nat := a.value.toNat / Nat.pow 256 (3 - place) % 256

/-- The form of an address. -/
def text (a : Ipv4) : List Char :=
  decimal (a.octet 0) ++ '.' :: decimal (a.octet 1) ++ '.' :: decimal (a.octet 2)
    ++ '.' :: decimal (a.octet 3)

/-- Reads a number: hexadecimal after `0x`, octal after `0`, else decimal. -/
def number? : List Char → Option Nat
  | [] => none
  | '0' :: 'x' :: digits => numeral? 16 digits
  | '0' :: 'X' :: digits => numeral? 16 digits
  | '0' :: c :: digits => numeral? 8 (c :: digits)
  | digits => numeral? 10 digits

/-- The parts of a text between its periods; an empty part at the end does not count. -/
def parts (s : List Char) : List (List Char) :=
  let all := s.splitOnP (· = '.')
  if 1 < all.length ∧ all.getLast? = some [] then all.dropLast else all

/-- The last part is a number, or would be one if it were decimal. -/
def endsInNumber (s : List Char) : Bool :=
  match (parts s).getLast? with
  | none => false
  | some [] => false
  | some last => last.all (fun c => '0' ≤ c && c ≤ '9') || (number? last).isSome

/-- The address of numbers: all but the last are one byte each. -/
def ofNumbers? (numbers : List Nat) : Option Ipv4 :=
  match numbers.reverse with
  | [] => none
  | last :: bytes =>
    if bytes.length ≤ 3 ∧ last < Nat.pow 256 (4 - bytes.length) ∧ bytes.all (· < 256) then
      let high := bytes.reverse.foldl (fun value b => value * 256 + b) 0
      some ⟨.ofNat (high * Nat.pow 256 (4 - bytes.length) + last)⟩
    else none

/-- Reads an address. -/
def parse? (s : List Char) : Option Ipv4 := do
  ofNumbers? (← (parts s).mapM number?)

/-- Reads a byte: decimal digits without a zero before others. -/
def byte? : List Char → Option Nat
  | [] => none
  | ['0'] => some 0
  | '0' :: _ => none
  | digits => (numeral? 10 digits).filter (· < 256)

/-- Reads an address in its own form: four bytes. -/
def octets? (s : List Char) : Option Ipv4 := do
  let bytes ← (s.splitOnP (· = '.')).mapM byte?
  if bytes.length = 4 then ofNumbers? bytes else none

end Ipv4

end WebDriverClient.Url
