/-
**Keys.**

A key that is not a character is sent as a code point of the private use area.

Main definitions:

* `Key` — the keys;
* `Key.char` — what is sent for a key;
* `Key.text` — what is sent for keys that are pressed one after the other.
-/

set_option autoImplicit false

namespace WebDriverClient

/-- A key of a keyboard. -/
inductive Key where
  | null
  | cancel
  | help
  | backspace
  | tab
  | clear
  | returnKey
  | enter
  | shift
  | control
  | alt
  | pause
  | escape
  | space
  | pageUp
  | pageDown
  | endKey
  | home
  | arrowLeft
  | arrowUp
  | arrowRight
  | arrowDown
  | insert
  | delete
  | metaKey
  | function (number : UInt8)
  | character (c : Char)
deriving DecidableEq, Repr

namespace Key

/-- What is sent for a key.  There are twelve function keys, and any other is the null key. -/
def char : Key → Char
  | null => '\uE000'
  | cancel => '\uE001'
  | help => '\uE002'
  | backspace => '\uE003'
  | tab => '\uE004'
  | clear => '\uE005'
  | returnKey => '\uE006'
  | enter => '\uE007'
  | shift => '\uE008'
  | control => '\uE009'
  | alt => '\uE00A'
  | pause => '\uE00B'
  | escape => '\uE00C'
  | space => '\uE00D'
  | pageUp => '\uE00E'
  | pageDown => '\uE00F'
  | endKey => '\uE010'
  | home => '\uE011'
  | arrowLeft => '\uE012'
  | arrowUp => '\uE013'
  | arrowRight => '\uE014'
  | arrowDown => '\uE015'
  | insert => '\uE016'
  | delete => '\uE017'
  | metaKey => '\uE03D'
  | function number =>
    if 1 ≤ number ∧ number ≤ 12 then Char.ofNat (0xE030 + number.toNat) else '\uE000'
  | character c => c

/-- What is sent for keys that are pressed one after the other. -/
def text (keys : List Key) : String := String.ofList (keys.map char)

/-- The keys that have names, by their names. -/
def named : List (String × Key) :=
  [("Null", null), ("Cancel", cancel), ("Help", help), ("Backspace", backspace), ("Tab", tab),
    ("Clear", clear), ("Return", returnKey), ("Enter", enter), ("Shift", shift),
    ("Control", control), ("Alt", alt), ("Pause", pause), ("Escape", escape), ("Space", space),
    ("PageUp", pageUp), ("PageDown", pageDown), ("End", endKey), ("Home", home),
    ("ArrowLeft", arrowLeft), ("ArrowUp", arrowUp), ("ArrowRight", arrowRight),
    ("ArrowDown", arrowDown), ("Insert", insert), ("Delete", delete), ("Meta", metaKey)]

end Key

end WebDriverClient
