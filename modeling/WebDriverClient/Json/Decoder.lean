/-
**Decoding of JSON values.**

A decoder turns a value into one of a type, or says what was found where something else was
expected.  A record is described by its fields in the order of their declaration.  It may come as
an object, in which unknown keys are ignored, or as an array of its fields.  The members of an
object are checked in the order of their keys, and only then are missing fields looked for.

Main definitions:

* `Json.Mismatch` — why a value was refused, and `Json.Mismatch.message`, its wording;
* `Json.Decoder` — the decoders, and those of texts, numbers, options, arrays and enumerations;
* `Json.Fields` — descriptions of fields, and `Json.Fields.decode`, the decoder of a record.
-/

import WebDriverClient.Json.Printer
import WebDriverClient.Text.Quoted

set_option autoImplicit false

namespace WebDriverClient.Json

/-! ### Why a value was refused -/

/-- What was expected in the place of a value. -/
inductive Expected where
  | string
  | boolean
  /-- A natural number of 64 bits. -/
  | natural
  | double
  | sequence
  | unit
  | record (name : String)
  | recordItems (name : String) (count : Nat)
  | variant
  | singleKey
  | fewerItems
deriving DecidableEq, Repr

/-- The wording of an expectation. -/
def Expected.text : Expected → String
  | .string => "a string"
  | .boolean => "a boolean"
  | .natural => "u64"
  | .double => "f64"
  | .sequence => "a sequence"
  | .unit => "unit"
  | .record name => "struct " ++ name
  | .recordItems name count =>
    "struct " ++ name ++ " with " ++ toString count
      ++ (if count = 1 then " element" else " elements")
  | .variant => "string or map"
  | .singleKey => "map with a single key"
  | .fewerItems => "fewer elements in array"

/-- Why a value was refused. -/
inductive Mismatch where
  | invalidType (found : Json) (expected : Expected)
  /-- The value is of the right kind but out of range. -/
  | invalidValue (found : Json) (expected : Expected)
  | invalidLength (found : Nat) (expected : Expected)
  | missingField (name : String)
  | unknownVariant (name : String) (known : List String)

/-- A word between backquotes. -/
def backquoted (s : String) : String := "`" ++ s ++ "`"

/-- A value as it is named in messages. -/
def describe : Json → String
  | .null => "null"
  | .bool b => "boolean " ++ backquoted (if b then "true" else "false")
  | .number (.int i) => "integer " ++ backquoted (toString i)
  | .number (.double d) => "floating point " ++ backquoted (Decimal.write numberStyle d)
  | .string s => "string " ++ Text.quote s
  | .array _ => "sequence"
  | .object _ => "map"

/-- The wording of a list of variants. -/
def variantList : List String → String
  | [a] => backquoted a
  | [a, b] => backquoted a ++ " or " ++ backquoted b
  | names => "one of " ++ ", ".intercalate (names.map backquoted)

/-- The wording of a refusal. -/
def Mismatch.message : Mismatch → String
  | .invalidType found expected => s!"invalid type: {found.describe}, expected {expected.text}"
  | .invalidValue found expected => s!"invalid value: {found.describe}, expected {expected.text}"
  | .invalidLength found expected => s!"invalid length {found}, expected {expected.text}"
  | .missingField name => "missing field " ++ backquoted name
  | .unknownVariant name known =>
    "unknown variant " ++ backquoted name ++ ", expected " ++ variantList known

/-! ### Decoders -/

/-- A decoder of values. -/
abbrev Decoder (α : Type) := Json → Except Mismatch α

namespace Decoder

/-- Any value. -/
def any : Decoder Json := .ok

/-- A text. -/
def string : Decoder String
  | .string s => .ok s
  | v => .error (.invalidType v .string)

/-- A truth value. -/
def boolean : Decoder Bool
  | .bool b => .ok b
  | v => .error (.invalidType v .boolean)

/-- A natural number of 64 bits. -/
def natural : Decoder UInt64
  | .number (.int i) =>
    if 0 ≤ i ∧ i < Nat.pow 2 64 then .ok (UInt64.ofNat i.toNat)
    else .error (.invalidValue (.number (.int i)) .natural)
  | v => .error (.invalidType v .natural)

/-- A number; an integer is rounded to the nearest double. -/
def double : Decoder Double
  | .number (.int i) => .ok (Double.ofInt i)
  | .number (.double d) => .ok d
  | v => .error (.invalidType v .double)

/-- A value that may be `null`. -/
def option {α : Type} (decode : Decoder α) : Decoder (Option α)
  | .null => .ok none
  | v => (decode v).map some

/-- The items of a list, the first refusal winning. -/
def listOf {α : Type} (decode : Decoder α) : List Json → Except Mismatch (List α)
  | [] => .ok []
  | v :: rest =>
    match decode v with
    | .error e => .error e
    | .ok a => (listOf decode rest).map (a :: ·)

/-- An array. -/
def list {α : Type} (decode : Decoder α) : Decoder (List α)
  | .array items => listOf decode items
  | v => .error (.invalidType v .sequence)

/-- The variant of a name. -/
def variantOf {α : Type} (variants : List (String × α)) (name : String) : Except Mismatch α :=
  match variants.find? (·.1 = name) with
  | some v => .ok v.2
  | none => .error (.unknownVariant name (variants.map (·.1)))

/-- A variant without contents: its name, or an object whose one key is its name and whose value
is `null`. -/
def variant {α : Type} (variants : List (String × α)) : Decoder α
  | .string name => variantOf variants name
  | .object [(name, value)] =>
    match variantOf variants name, value with
    | .error e, _ => .error e
    | .ok a, .null => .ok a
    | .ok _, v => .error (.invalidType v .unit)
  | .object members => .error (.invalidValue (.object members) .singleKey)
  | v => .error (.invalidType v .variant)

end Decoder

/-! ### Records -/

/-- The description of some fields of a record, from which a value of `α` is put together. -/
structure Fields (α : Type) where
  /-- The keys of the fields and what their values are checked for. -/
  checks : List (String × (Json → Except Mismatch Unit))
  /-- Puts the value together from the members of an object. -/
  gather : (String → Option Json) → Except Mismatch α
  /-- Puts the value together from the first items of an array of which some have been taken, and
  returns the items that are left. -/
  take : (Nat → Mismatch) → Nat → List Json → Except Mismatch (α × List Json)

namespace Fields

variable {α β : Type}

/-- A field, by what stands in for it when it is missing from an object and from an array. -/
def field (key : String) (decode : Decoder α) (absent short : Option α) : Fields α where
  checks := [(key, fun v => (decode v).map fun _ => ())]
  gather find :=
    match find key with
    | some v => decode v
    | none => absent.elim (.error (.missingField key)) .ok
  take tooShort taken
    | [] => short.elim (.error (tooShort taken)) fun a => .ok (a, [])
    | v :: rest => (decode v).map (·, rest)

/-- A field that must be there. -/
def required (key : String) (decode : Decoder α) : Fields α := field key decode none none

/-- A field that may be `null` and may be missing. -/
def optional (key : String) (decode : Decoder α) : Fields (Option α) :=
  field key decode.option (some none) (some none)

/-- A field that may be `null` and may be missing from an object, but not from an array. -/
def nullable (key : String) (decode : Decoder α) : Fields (Option α) :=
  field key decode.option (some none) none

/-- A field with a value that stands in for it. -/
def withDefault (key : String) (decode : Decoder α) (value : α) : Fields α :=
  field key decode (some value) (some value)

/-- No field. -/
protected def pure (a : α) : Fields α where
  checks := []
  gather _ := .ok a
  take _ _ items := .ok (a, items)

/-- Some fields and then others. -/
protected def seq (f : Fields (α → β)) (x : Unit → Fields α) : Fields β :=
  let x := x ()
  { checks := f.checks ++ x.checks
    gather := fun find => do return (← f.gather find) (← x.gather find)
    take := fun tooShort taken items => do
      let (g, items) ← f.take tooShort taken items
      let (a, items) ← x.take tooShort (taken + f.checks.length) items
      return (g a, items) }

instance : Applicative Fields where
  pure := Fields.pure
  seq := Fields.seq

/-- Checks the members of an object in their order. -/
def checkMembers (checks : List (String × (Json → Except Mismatch Unit))) :
    List (String × Json) → Except Mismatch Unit
  | [] => .ok ()
  | (key, value) :: rest => do
    match checks.find? (·.1 = key) with
    | some check => check.2 value
    | none => .ok ()
    checkMembers checks rest

/-- The decoder of a record. -/
def decode (name : String) (fields : Fields α) : Decoder α
  | .object members => do
    checkMembers fields.checks members
    fields.gather fun key => find? key members
  | .array items => do
    let tooShort (n : Nat) : Mismatch := .invalidLength n (.recordItems name fields.checks.length)
    let (a, rest) ← fields.take tooShort 0 items
    if rest.isEmpty then .ok a else .error (.invalidLength items.length .fewerItems)
  | v => .error (.invalidType v (.record name))

end Fields

end WebDriverClient.Json
