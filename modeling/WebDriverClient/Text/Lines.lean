/-
**Lines.**

A line ends at a newline or at the end of the text, and a carriage return just before that newline
belongs to the line end.  A carriage return before the end of the text is part of the last line.
The definitions serve characters and bytes alike.

Main definitions:

* `Lines.split` — the lines of a text, without their ends.
-/

set_option autoImplicit false

namespace WebDriverClient.Lines

variable {α : Type} [DecidableEq α]

/-- Drops one carriage return at the end. -/
def dropReturn (ret : α) (line : List α) : List α :=
  if line.getLast? = some ret then line.dropLast else line

/-- Splits the rest of a text, where `line` holds the current line in reverse. -/
def splitFrom (newline ret : α) (line : List α) : List α → List (List α)
  | [] => if line.isEmpty then [] else [line.reverse]
  | c :: rest =>
    if c = newline then dropReturn ret line.reverse :: splitFrom newline ret [] rest
    else splitFrom newline ret (c :: line) rest

/-- The lines of a text, without their ends. -/
def split (newline ret : α) (text : List α) : List (List α) :=
  splitFrom newline ret [] text

end WebDriverClient.Lines
