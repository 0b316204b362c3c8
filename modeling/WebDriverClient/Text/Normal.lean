/-
**Composed normal form.**

A character with marks can often be written in several ways.  In the normal form marks stand in the
order of their classes, and a character and its marks are composed as far as there are composed
characters.  Characters whose decomposition is not a composition are left as they are.

Main definitions:

* `Text.decompose` — a text without composed characters;
* `Text.reorder` — a text with its marks in order;
* `Text.compose` — a text with what can be composed composed;
* `Text.normalize` — the normal form.
-/

import WebDriverClient.Text.Composition

set_option autoImplicit false

namespace WebDriverClient.Text

/-- The class of a character; those that are not marks have class zero. -/
def combiningClass (c : Char) : Nat := (Table.find? combiningClasses c.toNat).getD 0

/-- The character combines with the one before. -/
def isMark (c : Char) : Bool := Table.contains marks c.toNat

/-! ### Korean syllables -/

/-- The parts of a syllable. -/
def syllableParts (n : Nat) : List Nat :=
  let index := n - 0xAC00
  let parts := [0x1100 + index / 588, 0x1161 + index % 588 / 28]
  if index % 28 = 0 then parts else parts ++ [0x11A7 + index % 28]

/-- The code point is a syllable. -/
def isSyllable (n : Nat) : Bool := 0xAC00 ≤ n && n ≤ 0xD7A3

/-- The syllable of two parts, the first of which may be a syllable itself. -/
def syllable? (a b : Nat) : Option Nat :=
  if 0x1100 ≤ a && a ≤ 0x1112 && 0x1161 ≤ b && b ≤ 0x1175 then
    some (0xAC00 + ((a - 0x1100) * 21 + (b - 0x1161)) * 28)
  else if isSyllable a && (a - 0xAC00) % 28 = 0 && 0x11A8 ≤ b && b ≤ 0x11C2 then
    some (a + (b - 0x11A7))
  else none

/-! ### Decomposition -/

/-- The parts of a code point and its entry among the compositions, if there is one, when `parts`
tells the parts of others. -/
def partsBy (parts : Nat → List Nat) (n : Nat) : Option (List Nat) → List Nat
  | some [_, a, b] => parts a ++ parts b
  | _ => [n]

/-- The parts of a code point, when compositions are nested no deeper than `depth`. -/
def parts : Nat → Nat → List Nat
  | 0, n => [n]
  | depth + 1, n =>
    if isSyllable n then syllableParts n
    else partsBy (parts depth) n (compositions.find? (·.head? = some n))

/-- How deep compositions are nested at most. -/
def maxNesting : Nat := 4

/-- A text without composed characters. -/
def decompose (s : List Char) : List Char :=
  s.flatMap fun c => if c.toNat < 0xC0 then [c] else (parts maxNesting c.toNat).map Char.ofNat

/-! ### Order of marks -/

/-- Puts a mark after a text, given in reverse, and before the marks of higher classes at its
end. -/
def insertMark (c : Char) : List Char → List Char
  | [] => [c]
  | d :: before =>
    if combiningClass c < combiningClass d then d :: insertMark c before else c :: d :: before

/-- A text with its marks in the order of their classes. -/
def reorder (s : List Char) : List Char :=
  (s.foldl (fun before c =>
    if combiningClass c = 0 then c :: before else insertMark c before) []).reverse

/-! ### Composition -/

/-- The composed character of two characters. -/
def composed? (a b : Char) : Option Char :=
  match syllable? a.toNat b.toNat with
  | some n => some (Char.ofNat n)
  | none =>
    (compositions.findSome? fun entry =>
      match entry with
      | [c, x, y] => if x = a.toNat && y = b.toNat then some c else none
      | _ => none).map Char.ofNat

/-- Composes a text after a character, with the marks in between in reverse. -/
def composeFrom (start : Char) (between : List Char) : List Char → List Char
  | [] => start :: between.reverse
  | c :: rest =>
    let blocked := between.head?.any fun d => combiningClass c ≤ combiningClass d
    match if blocked then none else composed? start c with
    | some whole => composeFrom whole between rest
    | none =>
      if combiningClass c = 0 then start :: between.reverse ++ composeFrom c [] rest
      else composeFrom start (c :: between) rest

/-- A text with what can be composed composed. -/
def compose : List Char → List Char
  | [] => []
  | c :: rest => if combiningClass c = 0 then composeFrom c [] rest else c :: compose rest

/-- The normal form of a text. -/
def normalize (s : List Char) : List Char :=
  if s.all fun c => c.toNat < 0xC0 then s else compose (reorder (decompose s))

end WebDriverClient.Text
