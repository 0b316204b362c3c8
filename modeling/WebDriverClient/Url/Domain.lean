/-
**Domain names.**

A name is a list of labels with periods between them.  It is brought into one form: characters are
mapped, composed and checked, and a label with characters outside of ASCII is written in ASCII after
the mark `xn--`.  A label that comes with the mark must be one that the mark was needed for.

Main definitions:

* `Domain.isForbidden` — the ASCII characters that no name holds;
* `Domain.label?` — the label that is meant, if it may stand in a name;
* `Domain.ofText?` — the ASCII form of a name.
-/

import WebDriverClient.Url.Domain.Direction
import WebDriverClient.Url.Domain.Joining
import WebDriverClient.Url.Domain.Mapping
import WebDriverClient.Url.Punycode

set_option autoImplicit false

namespace WebDriverClient.Url.Domain

/-- The ASCII characters that no name holds. -/
def isForbidden (c : Char) : Bool :=
  c.toNat ≤ 0x20 || c.toNat = 0x7F || "%#/:<>?@[\\]^|".toList.contains c

/-- The character belongs to ASCII. -/
def isAscii (c : Char) : Bool := c.toNat < 0x80

/-- The characters that a text is mapped to, composed. -/
def mapped? (s : List Char) : Option (List Char) :=
  (s.mapM mapChar?).map fun parts => Text.normalize parts.flatten

/-- The label holds characters that stand for themselves and stand where they may. -/
def isWellFormed (label : List Char) : Bool :=
  !label.any isForbidden && !label.head?.any Text.isMark && joinersAllowed label

/-- What follows the mark of a label that is written in ASCII. -/
def afterMark? : List Char → Option (List Char)
  | 'x' :: 'n' :: '-' :: '-' :: rest => some rest
  | _ => none

/-- The label that a mapped label means.  One that comes with the mark must need it and be mapped
to itself. -/
def label? (s : List Char) : Option (List Char) := do
  let label ← match afterMark? s with
    | none => pure s
    | some coded => do
      let label ← Punycode.decode? coded
      if label.all isAscii || mapped? label ≠ some label then none else some label
  if isWellFormed label then some label else none

/-- The form of a label. -/
def encode (label : List Char) : List Char :=
  if label.all isAscii then label else 'x' :: 'n' :: '-' :: '-' :: Punycode.encode label

/-- The ASCII form of a name. -/
def ofText? (s : String) : Option (List Char) := do
  let labels ← ((← mapped? s.toList).splitOnP (· = '.')).mapM label?
  if labels.any isRightToLeft && !labels.all isReadable then none
  else some (['.'].intercalate (labels.map encode))

end WebDriverClient.Url.Domain
