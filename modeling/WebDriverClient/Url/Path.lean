/-
**Paths.**

A path is a list of segments.  A segment that is one dot, or two, is not kept: one dot stands for
nothing, and two remove the segment before.  A dot may be written `%2e` in them.

Main definitions:

* `Path.isDot`, `Path.isDotDot` — the segments that are not kept;
* `Path.push`, `Path.pushLast` — add a segment to a path;
* `Path.ofSegments` — the path of segments as they are written;
* `Path.text` — the form of a path.
-/

import WebDriverClient.Text.Percent

set_option autoImplicit false

namespace WebDriverClient.Url.Path

/-- Takes a dot off the front of a segment. -/
def dropDot? : List Char → Option (List Char)
  | '.' :: rest => some rest
  | '%' :: '2' :: 'e' :: rest => some rest
  | '%' :: '2' :: 'E' :: rest => some rest
  | _ => none

/-- The segment is one dot. -/
def isDot (s : List Char) : Bool := dropDot? s = some []

/-- The segment is two dots. -/
def isDotDot (s : List Char) : Bool := (dropDot? s).any isDot

/-- The bytes that stand for themselves in a segment. -/
def isPlain (b : UInt8) : Bool :=
  0x21 ≤ b && b ≤ 0x7E && !("\"#<>?^\x60\x7b\x7d".toList.map fun c => c.toNat.toUInt8).contains b

/-- A segment as it is kept. -/
def encode (s : List Char) : List Char := Percent.encode isPlain (String.ofList s)

/-- The segment is the letter of a drive, which only the paths of files know. -/
def isDrive : List Char → Bool
  | [letter, mark] => letter.isAlpha && (mark = ':' || mark = '|')
  | _ => false

/-- The path without its last segment.  The drive of a file stays. -/
def shorten (file : Bool) (path : List (List Char)) : List (List Char) :=
  match path with
  | [drive] => if file && isDrive drive then [drive] else []
  | _ => path.dropLast

/-- The path with one more segment.  The drive of a file is written with a colon. -/
def enter (file : Bool) (path : List (List Char)) (segment : List Char) : List (List Char) :=
  if file && path.isEmpty && isDrive segment then [segment.take 1 ++ [':']]
  else path ++ [segment]

/-- Adds a segment to a path. -/
def push (file : Bool) (path : List (List Char)) (segment : List Char) : List (List Char) :=
  if isDotDot segment then shorten file path
  else if isDot segment then path
  else enter file path segment

/-- Adds the last segment to a path; dots stand for the directory that they lead to. -/
def pushLast (file : Bool) (path : List (List Char)) (segment : List Char) : List (List Char) :=
  if isDotDot segment then shorten file path ++ [[]]
  else if isDot segment then path ++ [[]]
  else enter file path segment

/-- The path of segments that are added to another path. -/
def append (file : Bool) (path : List (List Char)) : List (List Char) → List (List Char)
  | [] => path
  | [last] => pushLast file path last
  | segment :: rest => append file (push file path segment) rest

/-- The path of segments as they are written. -/
def ofSegments (file : Bool) (segments : List (List Char)) : List (List Char) :=
  append file [] (segments.map encode)

/-- The form of a path. -/
def text (path : List (List Char)) : List Char := path.flatMap ('/' :: ·)

end WebDriverClient.Url.Path
