/-
**JSON text as it is written.**

Reading goes in two steps.  The first, here, recognises the grammar on bytes and keeps what was
written: a string as the bytes between its quotes, a number as its digits, an object as its members
in order.  The second gives a written value its meaning, and only there can a string turn out not
to be text, a number not to fit or a nesting to be too deep.  A reader that skips a part of a text
asks of it the first step alone.

Main definitions:

* `Json.Written` — the syntax trees;
* `Json.Written.parse?` — the tree of a text;
* `Json.Written.text?`, `Json.Written.number?` — the meaning of a string and a number;
* `Json.Written.value?` — the meaning of a tree, for a given allowance of nested containers;
* `Json.parse?` — the value of a text.
-/

import WebDriverClient.Json.Value
import WebDriverClient.Number.Scaling
import WebDriverClient.Text.Utf8

set_option autoImplicit false

namespace WebDriverClient.Json

/-- A number as it is written: its digits before and after the point, and its exponent. -/
structure Literal where
  negative : Bool
  whole : List UInt8
  fraction : Option (List UInt8)
  /-- The sign and digits of the exponent, if there is one. -/
  exponent : Option (Bool × List UInt8)
deriving Repr, DecidableEq

/-- A JSON text as it is written. -/
inductive Written where
  | null
  | bool (b : Bool)
  | number (literal : Literal)
  /-- A string, by the bytes between its quotes. -/
  | string (inner : List UInt8)
  | array (items : List Written)
  /-- An object, with the bytes of each key. -/
  | object (members : List (List UInt8 × Written))
deriving Inhabited

namespace Written

/-! ### Tokens -/

/-- The four bytes that count as white space. -/
def isSpace (b : UInt8) : Bool := b == 0x20 || b == 0x09 || b == 0x0A || b == 0x0D

/-- A decimal digit. -/
def isDigit (b : UInt8) : Bool := 0x30 ≤ b && b ≤ 0x39

/-- The value of a hexadecimal digit. -/
def hexValue? (b : UInt8) : Option Nat :=
  if 0x30 ≤ b && b ≤ 0x39 then some (b.toNat - 0x30)
  else if 0x41 ≤ b && b ≤ 0x46 then some (b.toNat - 0x41 + 10)
  else if 0x61 ≤ b && b ≤ 0x66 then some (b.toNat - 0x61 + 10)
  else none

/-- Drops the white space at the front. -/
def skipSpace (input : List UInt8) : List UInt8 := input.dropWhile isSpace

/-- Takes the bytes of a word off the front. -/
def expect? (word : List UInt8) (input : List UInt8) : Option (List UInt8) :=
  if word.isPrefixOf input then some (input.drop word.length) else none

/-- The bytes up to the closing quote, and what follows it.  A control character, an unknown
escape and a missing quote are refused. -/
def stringBody? : List UInt8 → Option (List UInt8 × List UInt8)
  | [] => none
  | 0x22 :: rest => some ([], rest)
  | 0x5C :: 0x75 :: a :: b :: c :: d :: rest =>
    if (hexValue? a).isSome && (hexValue? b).isSome && (hexValue? c).isSome
        && (hexValue? d).isSome then
      (stringBody? rest).map fun r => (0x5C :: 0x75 :: a :: b :: c :: d :: r.1, r.2)
    else none
  | 0x5C :: e :: rest =>
    if [0x22, 0x5C, 0x2F, 0x62, 0x66, 0x6E, 0x72, 0x74].contains e then
      (stringBody? rest).map fun r => (0x5C :: e :: r.1, r.2)
    else none
  | b :: rest =>
    if b < 0x20 || b == 0x5C then none else (stringBody? rest).map fun r => (b :: r.1, r.2)

/-- The digits at the front, of which there must be one. -/
def digits? (input : List UInt8) : Option (List UInt8 × List UInt8) :=
  match input.takeWhile isDigit with
  | [] => none
  | ds => some (ds, input.dropWhile isDigit)

/-- The digits before the point: a zero alone, or digits that do not begin with zero. -/
def wholePart? (input : List UInt8) : Option (List UInt8 × List UInt8) := do
  let (ds, rest) ← digits? input
  if ds.head? = some 0x30 && ds.length ≠ 1 then none else some (ds, rest)

/-- The point and the digits after it, if there is a point. -/
def fractionPart? : List UInt8 → Option (Option (List UInt8) × List UInt8)
  | 0x2E :: input => (digits? input).map fun (ds, rest) => (some ds, rest)
  | input => some (none, input)

/-- The sign of an exponent. -/
def exponentSign : List UInt8 → Bool × List UInt8
  | 0x2B :: input => (false, input)
  | 0x2D :: input => (true, input)
  | input => (false, input)

/-- The exponent, if there is one. -/
def exponentPart? : List UInt8 → Option (Option (Bool × List UInt8) × List UInt8)
  | [] => some (none, [])
  | e :: input =>
    if e == 0x45 || e == 0x65 then
      let (negative, input) := exponentSign input
      (digits? input).map fun (ds, rest) => (some (negative, ds), rest)
    else some (none, e :: input)

/-- A number without its sign. -/
def unsigned? (negative : Bool) (input : List UInt8) : Option (Literal × List UInt8) := do
  let (whole, input) ← wholePart? input
  let (fraction, input) ← fractionPart? input
  let (exponent, input) ← exponentPart? input
  return (⟨negative, whole, fraction, exponent⟩, input)

/-- A number. -/
def literal? : List UInt8 → Option (Literal × List UInt8)
  | 0x2D :: input => unsigned? true input
  | input => unsigned? false input

/-! ### Trees -/

/-- A key, its colon and the white space around it. -/
def key? (input : List UInt8) : Option (List UInt8 × List UInt8) :=
  match skipSpace input with
  | 0x22 :: input =>
    match stringBody? input with
    | some (key, input) =>
      match skipSpace input with
      | 0x3A :: input => some (key, input)
      | _ => none
    | none => none
  | _ => none

mutual

/-- A value at the front, after white space.  Each call takes a byte, so the length of the text is
fuel enough. -/
def value (fuel : Nat) (input : List UInt8) : Option (Written × List UInt8) :=
  match fuel with
  | 0 => none
  | fuel + 1 =>
    match skipSpace input with
    | [] => none
    | 0x22 :: input => (stringBody? input).map fun (inner, rest) => (.string inner, rest)
    | 0x5B :: input =>
      match skipSpace input with
      | 0x5D :: rest => some (.array [], rest)
      | input => (items fuel input).map fun (items, rest) => (.array items, rest)
    | 0x7B :: input =>
      match skipSpace input with
      | 0x7D :: rest => some (.object [], rest)
      | input => (members fuel input).map fun (members, rest) => (.object members, rest)
    | b :: input =>
      if b == 0x6E then (expect? [0x75, 0x6C, 0x6C] input).map (.null, ·)
      else if b == 0x74 then (expect? [0x72, 0x75, 0x65] input).map (.bool true, ·)
      else if b == 0x66 then (expect? [0x61, 0x6C, 0x73, 0x65] input).map (.bool false, ·)
      else (literal? (b :: input)).map fun (n, rest) => (.number n, rest)

/-- The items of an array, up to its closing bracket. -/
def items (fuel : Nat) (input : List UInt8) : Option (List Written × List UInt8) :=
  match fuel with
  | 0 => none
  | fuel + 1 =>
    match value fuel input with
    | none => none
    | some (item, input) =>
      match skipSpace input with
      | 0x2C :: input => (items fuel input).map fun (rest, input) => (item :: rest, input)
      | 0x5D :: input => some ([item], input)
      | _ => none

/-- The members of an object, up to its closing brace. -/
def members (fuel : Nat) (input : List UInt8) :
    Option (List (List UInt8 × Written) × List UInt8) :=
  match fuel with
  | 0 => none
  | fuel + 1 =>
    match key? input with
    | none => none
    | some (key, input) =>
      match value fuel input with
      | none => none
      | some (item, input) =>
        match skipSpace input with
        | 0x2C :: input =>
          (members fuel input).map fun (rest, input) => ((key, item) :: rest, input)
        | 0x7D :: input => some ([(key, item)], input)
        | _ => none

end

/-- The tree of a text that holds one value and white space around it. -/
def parse? (text : List UInt8) : Option Written :=
  match value (2 * text.length + 2) text with
  | some (w, rest) => if (skipSpace rest).isEmpty then some w else none
  | none => none

/-! ### Meaning -/

/-- The number that four hexadecimal digits stand for. -/
def hexQuad (a b c d : Char) : Nat :=
  let value (c : Char) := (hexValue? c.toNat.toUInt8).getD 0
  ((value a * 16 + value b) * 16 + value c) * 16 + value d

/-- The character of an escape letter. -/
def escapeLetter : Char → Char
  | 'b' => '\x08'
  | 'f' => '\x0c'
  | 'n' => '\n'
  | 'r' => '\r'
  | 't' => '\t'
  | c => c

/-- Replaces the escapes of a string.  The two halves of a surrogate pair must stand together. -/
def unescape? : List Char → Option (List Char)
  | [] => some []
  | '\\' :: 'u' :: a :: b :: c :: d :: rest =>
    let n := hexQuad a b c d
    if 0xD800 ≤ n && n < 0xDC00 then
      match rest with
      | '\\' :: 'u' :: e :: f :: g :: h :: rest =>
        let m := hexQuad e f g h
        if 0xDC00 ≤ m && m < 0xE000 then
          (unescape? rest).map (Char.ofNat (0x10000 + (n - 0xD800) * 0x400 + (m - 0xDC00)) :: ·)
        else none
      | _ => none
    else if 0xDC00 ≤ n && n < 0xE000 then none
    else (unescape? rest).map (Char.ofNat n :: ·)
  | '\\' :: e :: rest => (unescape? rest).map (escapeLetter e :: ·)
  | c :: rest => (unescape? rest).map (c :: ·)

/-- The text of a string: its bytes must be UTF-8 and its escapes must denote characters. -/
def text? (inner : List UInt8) : Option String :=
  match Utf8.decode? inner with
  | some s => (unescape? s.toList).map String.ofList
  | none => none

/-- The values of digits. -/
def digitValues (ds : List UInt8) : List Nat := ds.map fun b => b.toNat - 0x30

/-- The natural that digits stand for. -/
def natural (ds : List UInt8) : Nat := (digitValues ds).foldl (fun n d => n * 10 + d) 0

/-- The power of ten that an exponent stands for. -/
def power : Option (Bool × List UInt8) → Int
  | none => 0
  | some (true, ds) => -(natural ds : Int)
  | some (false, ds) => natural ds

/-- The literal as a numeral. -/
def numeral (l : Literal) : Numeral :=
  ⟨l.negative, digitValues l.whole, digitValues (l.fraction.getD []), power l.exponent⟩

/-- The integer of 64 bits that a literal stands for, if it does.  The literal `-0` does not. -/
def integer? (l : Literal) : Option Int :=
  match l.fraction, l.exponent with
  | none, none =>
    let n := natural l.whole
    if l.negative then if n ≠ 0 ∧ n ≤ Nat.pow 2 63 then some (-n) else none
    else if n < Nat.pow 2 64 then some n else none
  | _, _ => none

/-- The number that a literal stands for: an integer if it fits 64 bits, and else a double. -/
def number? (l : Literal) : Option Number :=
  match integer? l with
  | some i => some (.int i)
  | none => (numeral l).toDouble?.map .double

mutual

/-- The value of a tree with at most `depth` containers inside one another. -/
def value? (depth : Nat) : Written → Option Json
  | .null => some .null
  | .bool b => some (.bool b)
  | .number n => (number? n).map .number
  | .string inner => (text? inner).map .string
  | .array items =>
    match depth with
    | 0 => none
    | depth + 1 => (values? depth items).map .array
  | .object members =>
    match depth with
    | 0 => none
    | depth + 1 => (memberValues? depth members).map ofMembers

/-- The values of the items of an array. -/
def values? (depth : Nat) : List Written → Option (List Json)
  | [] => some []
  | item :: rest =>
    match value? depth item, values? depth rest with
    | some v, some vs => some (v :: vs)
    | _, _ => none

/-- The values of the members of an object, in the order written. -/
def memberValues? (depth : Nat) : List (List UInt8 × Written) → Option (List (String × Json))
  | [] => some []
  | (key, item) :: rest =>
    match text? key, value? depth item, memberValues? depth rest with
    | some k, some v, some vs => some ((k, v) :: vs)
    | _, _, _ => none

end

end Written

/-- At most this many containers may stand inside one another. -/
def maxDepth : Nat := 127

/-- The value of a text. -/
def parse? (text : List UInt8) : Option Json :=
  match Written.parse? text with
  | some w => w.value? maxDepth
  | none => none

end WebDriverClient.Json
