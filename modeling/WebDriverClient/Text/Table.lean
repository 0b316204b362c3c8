/-
**Tables of code points.**

A table is written as a text: entries stand on lines or have semicolons between them, and an entry
is one or more hexadecimal numbers with spaces between them.

Main definitions:

* `Table.entries` — the entries of a table;
* `Table.contains` — membership in a table of ranges;
* `Table.find?` — the value of a range.
-/

set_option autoImplicit false

namespace WebDriverClient.Table

/-- The value of an upper-case hexadecimal digit. -/
def digit (c : Char) : Nat := if c ≤ '9' then c.toNat - 0x30 else c.toNat - 0x37

/-- What has been read of a table: the entries, the numbers of the current entry, both in reverse,
and the number that is being read. -/
structure Reading where
  entries : List (List Nat) := []
  current : List Nat := []
  number : Option Nat := none

namespace Reading

/-- Ends the current number. -/
def endNumber (r : Reading) : Reading :=
  match r.number with
  | none => r
  | some n => { r with current := n :: r.current, number := none }

/-- Ends the current entry. -/
def endEntry (r : Reading) : Reading :=
  let r := r.endNumber
  if r.current.isEmpty then r
  else { r with entries := r.current.reverse :: r.entries, current := [] }

/-- Reads a character. -/
def read (r : Reading) (c : Char) : Reading :=
  if c = ' ' then r.endNumber
  else if c = ';' || c = '\n' then r.endEntry
  else { r with number := some (r.number.getD 0 * 16 + digit c) }

end Reading

/-- The entries of a table. -/
def entries (s : String) : List (List Nat) :=
  (s.toList.foldl Reading.read {}).endEntry.entries.reverse

/-- The range of an entry, which holds the code point. -/
def inRange (n : Nat) : List Nat → Bool
  | [a] => n = a
  | [first, last] => first ≤ n && n ≤ last
  | _ => false

/-- One of the ranges of a table holds the code point. -/
def contains (table : List (List Nat)) (n : Nat) : Bool := table.any (inRange n)

/-- The value of an entry, which comes after its range, if the range holds the code point. -/
def valueAt? (n : Nat) : List Nat → Option Nat
  | [a, value] => if n = a then some value else none
  | [first, last, value] => if first ≤ n && n ≤ last then some value else none
  | _ => none

/-- The value of the range that holds the code point. -/
def find? (table : List (List Nat)) (n : Nat) : Option Nat := table.findSome? (valueAt? n)

end WebDriverClient.Table
