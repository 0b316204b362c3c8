/-
**CSS selectors.**

The part of the language that locators need: a list of compound selectors, each an optional tag and
tests of attributes.

Main definitions:

* `Css.Attribute`, `Css.Compound` — the selectors;
* `Css.quote` — a string token that denotes a value;
* `Css.render` — the text of a list of compound selectors.
-/

import WebDriverClient.Locator.Expression
import WebDriverClient.Locator.Name

set_option autoImplicit false

namespace WebDriverClient.Locator.Css

/-- A test of an attribute. -/
structure Attribute where
  name : Name
  relation : Relation
  value : String
deriving DecidableEq

/-- An optional tag and tests of attributes, all of which must hold. -/
structure Compound where
  tag : Option Name
  attributes : List Attribute
deriving DecidableEq

/-- The operator of a relation. -/
def operator : Relation → List Char
  | .equals => ['=']
  | .contains => ['*', '=']
  | .startsWith => ['^', '=']
  | .endsWith => ['$', '=']

/-- The form of one character inside a string. -/
def escapeChar (c : Char) : List Char :=
  if c = '"' ∨ c = '\\' then ['\\', c]
  else if c = '\n' then ['\\', 'a', ' ']
  else [c]

/-- A string token that denotes a value. -/
def quote (value : List Char) : List Char := '"' :: value.flatMap escapeChar ++ ['"']

/-- The text of a test. -/
def Attribute.render (a : Attribute) : List Char :=
  '[' :: a.name.chars ++ operator a.relation ++ quote a.value.toList ++ [']']

/-- The text of a compound selector. -/
def Compound.render (c : Compound) : List Char :=
  (c.tag.elim [] (·.chars)) ++ c.attributes.flatMap Attribute.render

/-- The text of a list of compound selectors. -/
def render (selectors : List Compound) : List Char :=
  [',', ' '].intercalate (selectors.map Compound.render)

end WebDriverClient.Locator.Css
