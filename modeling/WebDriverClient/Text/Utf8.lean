/-
**UTF-8 as a machine over bytes.**

The decoder reads one byte at a time.  Between characters it is `ready`; inside a character it
knows how many continuation bytes are missing and in which range the next one must lie, which is
how overlong forms, surrogates and values beyond U+10FFFF are refused at the earliest byte.  Each
run of bytes that began a character and could not be continued is one mark `none` in the result,
so the strict and the lossy reading are two views of the same scan.

Main definitions:

* `Utf8.scan` — the characters of a byte string, with a mark for each maximal ill-formed part;
* `Utf8.decode?` — the text, when every part is well-formed;
* `Utf8.decodeLossy` — the text with U+FFFD for each ill-formed part;
* `Utf8.encode` — the bytes of a text.
-/

set_option autoImplicit false

namespace WebDriverClient.Utf8

/-- What the decoder expects next. -/
inductive State where
  | ready
  /-- `missing` continuation bytes are to come, the next one between `low` and `high`, after the
  bits `value`. -/
  | inside (missing : Nat) (low high : UInt8) (value : Nat)
deriving Repr, DecidableEq

/-- The state after a leading byte of a character of several bytes. -/
def afterLead (b : UInt8) : Option State :=
  if 0xC2 ≤ b && b ≤ 0xDF then some (.inside 1 0x80 0xBF (b.toNat % 32))
  else if b = 0xE0 then some (.inside 2 0xA0 0xBF 0)
  else if b = 0xED then some (.inside 2 0x80 0x9F 13)
  else if 0xE1 ≤ b && b ≤ 0xEF then some (.inside 2 0x80 0xBF (b.toNat % 16))
  else if b = 0xF0 then some (.inside 3 0x90 0xBF 0)
  else if 0xF1 ≤ b && b ≤ 0xF3 then some (.inside 3 0x80 0xBF (b.toNat % 8))
  else if b = 0xF4 then some (.inside 3 0x80 0x8F 4)
  else none

/-- Reads the first byte of a character. -/
def start (b : UInt8) : List (Option Char) × State :=
  if b < 0x80 then ([some (Char.ofNat b.toNat)], .ready)
  else match afterLead b with
    | some s => ([], s)
    | none => ([none], .ready)

/-- Reads one byte; a byte that cannot continue a character ends it as ill-formed and is read
anew. -/
def step : State → UInt8 → List (Option Char) × State
  | .ready, b => start b
  | .inside missing low high value, b =>
    if low ≤ b && b ≤ high then
      let value := value * 64 + b.toNat % 64
      if missing ≤ 1 then ([some (Char.ofNat value)], .ready)
      else ([], .inside (missing - 1) 0x80 0xBF value)
    else
      let (out, next) := start b
      (none :: out, next)

/-- The characters of a byte string, with `none` for each maximal ill-formed part. -/
def scan : State → List UInt8 → List (Option Char)
  | .ready, [] => []
  | .inside .., [] => [none]
  | s, b :: rest =>
    let (out, next) := step s b
    out ++ scan next rest

/-- The text of a byte string that is well-formed throughout. -/
def decode? (bytes : List UInt8) : Option String :=
  ((scan .ready bytes).mapM id).map String.ofList

/-- The text of any byte string, with U+FFFD for each ill-formed part. -/
def decodeLossy (bytes : List UInt8) : String :=
  String.ofList ((scan .ready bytes).map (·.getD '\uFFFD'))

/-- The bytes of a text. -/
def encode (text : String) : List UInt8 :=
  text.toList.flatMap String.utf8EncodeChar

end WebDriverClient.Utf8
