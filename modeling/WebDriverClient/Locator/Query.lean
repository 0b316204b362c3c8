/-
**Queries.**

A query is what the remote end is asked to find: a strategy and its selector.  Below an element,
the paths of an XPath query must start at that element and not at the document, so a period is put
before each branch of the union that begins with two slashes.

Main definitions:

* `Locator.Strategy`, `Locator.Query` — what is sent;
* `Locator.anchor` — puts the period before the branches of an XPath union;
* `Locator.Query.anchored` — the query for a search below an element.
-/

import WebDriverClient.Json.Value
import WebDriverClient.Text.Blank
import WebDriverClient.Text.Quoted

set_option autoImplicit false

namespace WebDriverClient.Locator

/-- How a selector is read. -/
inductive Strategy where
  | css
  | xpath
  | linkText
  | partialLinkText
  | tagName
deriving DecidableEq, Repr

namespace Strategy

/-- All strategies. -/
def every : List Strategy := [.css, .xpath, .linkText, .partialLinkText, .tagName]

/-- The name of a strategy on the wire. -/
def text : Strategy → String
  | .css => "css selector"
  | .xpath => "xpath"
  | .linkText => "link text"
  | .partialLinkText => "partial link text"
  | .tagName => "tag name"

/-- The strategy with a name. -/
def ofText? (name : String) : Option Strategy := every.find? (·.text = name)

end Strategy

/-- A selector and how it is read. -/
structure Query where
  strategy : Strategy
  value : String
deriving DecidableEq, Repr

/-! ### Anchoring -/

/-- What a scan of an XPath expression knows: the quote of the string it is in, how many brackets
are open, and whether a branch is about to start. -/
structure Scan where
  /-- The quote of the string that is being read. -/
  quote : Option Char
  /-- How many brackets are open; one too many closed is not counted. -/
  depth : Nat
  /-- Only white space has been read of this branch. -/
  atStart : Bool
deriving DecidableEq, Repr

/-- The scan before the first character. -/
def Scan.initial : Scan := ⟨none, 0, true⟩

/-- The scan after one more character. -/
def Scan.next (s : Scan) (c : Char) : Scan :=
  let atStart := s.atStart && Text.isBlank c
  match s.quote with
  | some q => ⟨if q = c then none else some q, s.depth, atStart⟩
  | none =>
    if c = '"' ∨ c = '\'' then ⟨some c, s.depth, atStart⟩
    else if c = '[' ∨ c = '(' then ⟨none, s.depth + 1, atStart⟩
    else if c = ']' ∨ c = ')' then ⟨none, s.depth - 1, atStart⟩
    else ⟨none, s.depth, atStart || (c = '|' && s.depth = 0)⟩

/-- Puts a period before each branch that begins with two slashes, from the middle of a scan. -/
def anchorFrom (s : Scan) : List Char → List Char
  | [] => []
  | c :: rest =>
    let anchored := anchorFrom (s.next c) rest
    if s.atStart && c = '/' && rest.head? = some '/' then '.' :: c :: anchored else c :: anchored

/-- Puts a period before each branch of an XPath union that begins with two slashes. -/
def anchor (xpath : List Char) : List Char := anchorFrom .initial xpath

namespace Query

/-- The query for a search below an element. -/
def anchored (q : Query) : Query :=
  match q.strategy with
  | .xpath => { q with value := String.ofList (anchor q.value.toList) }
  | _ => q

/-- The query as it is shown. -/
def display (q : Query) : String := q.strategy.text ++ " " ++ Text.quote q.value

/-- The query as it is sent. -/
def toJson (q : Query) : Json :=
  .ofMembers [("using", .string q.strategy.text), ("value", .string q.value)]

end Query

end WebDriverClient.Locator
