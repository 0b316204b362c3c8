/-
**Compact JSON text.**

A value is written without white space, object members in the order of the value.  Characters
below U+0020, the quote and the backslash are escaped and all others are written as they are.
Doubles are written with the fewest digits that read back, positionally from `0.00001` up to below
`10 ^ 16`, and always with a point or an exponent, so that they are read as doubles again.

Main definitions:

* `Json.numberStyle` — how doubles are written;
* `Json.render` — the text of a value.
-/

import WebDriverClient.Json.Value
import WebDriverClient.Number.Decimal

set_option autoImplicit false

namespace WebDriverClient.Json

/-- Doubles from `0.00001` up to below `10 ^ 16` are written positionally. -/
def numberStyle : Decimal.Style := ⟨-5, 16⟩

/-- The text of a number. -/
def Number.render : Number → String
  | .int i => toString i
  | .double d => Decimal.write numberStyle d

/-- The form of one character inside a string. -/
def escapeChar (c : Char) : List Char :=
  match c with
  | '"' => ['\\', '"']
  | '\\' => ['\\', '\\']
  | '\n' => ['\\', 'n']
  | '\t' => ['\\', 't']
  | '\r' => ['\\', 'r']
  | '\x08' => ['\\', 'b']
  | '\x0c' => ['\\', 'f']
  | _ =>
    if c.toNat < 0x20 then
      ['\\', 'u', '0', '0', Nat.digitChar (c.toNat / 16), Nat.digitChar (c.toNat % 16)]
    else [c]

/-- The text of a string. -/
def renderString (s : String) : String :=
  String.ofList ('"' :: s.toList.flatMap escapeChar ++ ['"'])

mutual

/-- The text of a value. -/
def render : Json → String
  | .null => "null"
  | .bool true => "true"
  | .bool false => "false"
  | .number n => n.render
  | .string s => renderString s
  | .array items => "[" ++ String.intercalate "," (renderItems items) ++ "]"
  | .object members => "\x7b" ++ String.intercalate "," (renderMembers members) ++ "\x7d"

/-- The texts of the items of an array. -/
def renderItems : List Json → List String
  | [] => []
  | item :: rest => render item :: renderItems rest

/-- The texts of the members of an object. -/
def renderMembers : List (String × Json) → List String
  | [] => []
  | (key, value) :: rest => (renderString key ++ ":" ++ render value) :: renderMembers rest

end

end WebDriverClient.Json
