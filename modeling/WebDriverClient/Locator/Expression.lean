/-
**Locator expressions.**

A locator says which elements are meant: a Boolean combination of tests on an element's attributes
and text and of its tag.  The text of a link is a locator too, but only on its own.

Main definitions:

* `Locator.TagName` — names of tags, which are the same in upper and lower case;
* `Locator.Test` — a test of an attribute or of the value of a function;
* `Locator.Condition` — what one leaf of an expression asks;
* `Locator.Expression` — the expressions, with builders for their leaves.
-/

set_option autoImplicit false

namespace WebDriverClient.Locator

/-! ### Tags -/

/-- The name of a tag.  Tags are the same in upper and lower case, so the name is in lower case. -/
structure TagName where
  text : String
deriving DecidableEq, Repr, Inhabited

namespace TagName

/-- The tag with the given name. -/
def ofString (name : String) : TagName := ⟨name.map Char.toLower⟩

/-- The tags in common use. -/
def common : List TagName :=
  ["a", "article", "body", "button", "div", "form", "h1", "h2", "h3", "header", "iframe", "img",
    "input", "label", "li", "main", "nav", "option", "p", "section", "select", "span", "table",
    "td", "textarea", "tr", "ul"].map TagName.mk

end TagName

/-! ### Tests -/

/-- How a value may be compared in every selector language. -/
inductive Relation where
  | equals
  | contains
  | startsWith
  | endsWith
deriving DecidableEq, Repr

/-- How a value may be compared: by one of the relations, or as different. -/
inductive Comparison where
  | relation (r : Relation)
  | differs
deriving DecidableEq, Repr

/-- What a comparison is about: an attribute, or the value of a function on the element. -/
inductive Subject (ν : Type) where
  | attr (name : ν)
  | function (name : ν)
deriving DecidableEq, Repr

/-- A test of an element, with names of type `ν`. -/
inductive Test (ν : Type) where
  /-- A test of an attribute that every selector language can write. -/
  | attr (name : ν) (relation : Relation) (value : String)
  /-- A comparison that only XPath can write. -/
  | comparison (subject : Subject ν) (comparison : Comparison) (value : String)
deriving DecidableEq, Repr

/-! ### Expressions -/

/-- What one leaf of an expression asks. -/
inductive Condition where
  | test (t : Test String)
  | tag (t : TagName)
  /-- The element is a link whose visible text is the given one, or contains it. -/
  | linkText (text : String) (part : Bool)
deriving DecidableEq, Repr

/-- A Boolean combination of conditions. -/
inductive Expression where
  | leaf (condition : Condition)
  | and (left right : Expression)
  | or (left right : Expression)
  | not (inner : Expression)
deriving DecidableEq, Repr

namespace Expression

/-- A comparison of an attribute.  All but inequality are tests that every selector language can
write. -/
def attr (name : String) (comparison : Comparison) (value : String) : Expression :=
  match comparison with
  | .relation r => .leaf (.test (.attr name r value))
  | .differs => .leaf (.test (.comparison (.attr name) .differs value))

/-- A comparison of an attribute in XPath. -/
def xpathAttribute (name : String) (comparison : Comparison) (value : String) : Expression :=
  .leaf (.test (.comparison (.attr name) comparison value))

/-- A comparison of the value of an XPath function on the element. -/
def function (name : String) (comparison : Comparison) (value : String) : Expression :=
  .leaf (.test (.comparison (.function name) comparison value))

/-- A comparison of the text of the element. -/
def text (comparison : Comparison) (value : String) : Expression :=
  function "text" comparison value

/-- Elements with a tag. -/
def tag (t : TagName) : Expression := .leaf (.tag t)

/-- Links whose visible text is the given one. -/
def linkText (text : String) : Expression := .leaf (.linkText text false)

/-- Links whose visible text contains the given one. -/
def partialLinkText (text : String) : Expression := .leaf (.linkText text true)

end Expression

end WebDriverClient.Locator
