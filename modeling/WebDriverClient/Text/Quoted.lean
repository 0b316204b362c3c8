/-
**Quoted text.**

Diagnostics show a text between double quotes.  The quote and the backslash are escaped with a
backslash, four control characters by a letter or digit, and every other character that has no
visible form of its own by its code point in braces.

Main definitions:

* `Text.quote` — the quoted form of a text.
-/

import WebDriverClient.Text.Ranges

set_option autoImplicit false

namespace WebDriverClient.Text

/-- The digits of a number in base sixteen, in lower case. -/
def hexDigits (n : Nat) : List Char := Nat.toDigits 16 n

/-- The code point of a character between braces, after `\u`. -/
def codePointEscape (c : Char) : List Char :=
  ['\\', 'u', '\x7b'] ++ hexDigits c.toNat ++ ['\x7d']

/-- The form of one character inside quotes. -/
def quoteChar (c : Char) : List Char :=
  match c with
  | '\x00' => ['\\', '0']
  | '\t' => ['\\', 't']
  | '\r' => ['\\', 'r']
  | '\n' => ['\\', 'n']
  | '\\' => ['\\', '\\']
  | '"' => ['\\', '"']
  | _ =>
    if c.toNat < 0x7F && 0x20 ≤ c.toNat then [c]
    else if isGraphemeExtender c || !isPrintable c then codePointEscape c
    else [c]

/-- The quoted form of a text. -/
def quote (text : String) : String :=
  String.ofList ('"' :: text.toList.flatMap quoteChar ++ ['"'])

end WebDriverClient.Text
