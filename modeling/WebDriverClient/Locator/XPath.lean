/-
**XPath expressions.**

The part of the language that locators need: a union of paths, each of which selects the elements
of the document with an optional tag that pass filters.  XPath strings have no escapes, so a value
that holds both quotes is put together by `concat` from strings that each hold one kind.

Main definitions:

* `XPath.Operand` — a string, or strings put together;
* `XPath.Filter`, `XPath.Path` — the expressions;
* `XPath.render` — the text of a union of paths.
-/

import WebDriverClient.Locator.Formula

set_option autoImplicit false

namespace WebDriverClient.Locator.XPath

/-! ### Strings -/

/-- A string between the given quotes. -/
structure Literal where
  quote : Char
  inner : List Char
deriving DecidableEq, Repr

/-- The text of a string. -/
def Literal.render (l : Literal) : List Char := l.quote :: l.inner ++ [l.quote]

/-- What a value is compared with. -/
inductive Operand where
  | literal (l : Literal)
  | concat (ls : List Literal)
deriving DecidableEq, Repr

/-- The parts of a text between the occurrences of a character. -/
def pieces (separator : Char) : List Char → List (List Char)
  | [] => [[]]
  | c :: rest =>
    match pieces separator rest with
    | [] => [[c]]
    | piece :: more => if c = separator then [] :: piece :: more else (c :: piece) :: more

/-- The operand that denotes a value. -/
def Operand.ofValue (value : List Char) : Operand :=
  if !value.contains '"' then .literal ⟨'"', value⟩
  else if !value.contains '\'' then .literal ⟨'\'', value⟩
  else .concat (((pieces '"' value).map (Literal.mk '"')).intersperse ⟨'\'', ['"']⟩)

/-- The text of an operand. -/
def Operand.render : Operand → List Char
  | .literal l => l.render
  | .concat ls => "concat(".toList ++ [',', ' '].intercalate (ls.map Literal.render) ++ [')']

/-- The text that an operand denotes. -/
def Operand.denote : Operand → List Char
  | .literal l => l.inner
  | .concat ls => ls.flatMap (·.inner)

/-! ### Filters and paths -/

/-- A condition on an element. -/
inductive Filter where
  | test (subject : Subject Name) (comparison : Comparison) (operand : Operand)
  | all (operands : List Filter)
  | any (branches : List Filter)
  | not (inner : Filter)

/-- The elements of the document with a tag that pass all filters. -/
structure Path where
  tag : Option Name
  filters : List Filter

/-- The text of a subject. -/
def renderSubject : Subject Name → List Char
  | .attr name => '@' :: name.chars
  | .function name => name.chars ++ ['(', ')']

/-- The call of a function with a subject and an operand. -/
def call (function : String) (subject operand : List Char) : List Char :=
  function.toList ++ '(' :: subject ++ ',' :: operand ++ [')']

/-- The text of a comparison. -/
def renderTest (subject : List Char) (comparison : Comparison) (operand : List Char) : List Char :=
  match comparison with
  | .relation .equals => subject ++ '=' :: operand
  | .differs => subject ++ '!' :: '=' :: operand
  | .relation .contains => call "contains" subject operand
  | .relation .startsWith => call "starts-with" subject operand
  | .relation .endsWith => call "ends-with" subject operand

mutual

/-- The text of a filter. -/
def Filter.render : Filter → List Char
  | .test subject comparison operand =>
    renderTest (renderSubject subject) comparison operand.render
  | .all fs => '(' :: " and ".toList.intercalate (renderAll fs) ++ [')']
  | .any fs => '(' :: " or ".toList.intercalate (renderAll fs) ++ [')']
  | .not f => "not(".toList ++ f.render ++ [')']

/-- The texts of filters. -/
def Filter.renderAll : List Filter → List (List Char)
  | [] => []
  | f :: fs => f.render :: Filter.renderAll fs

end

/-- The text of a path. -/
def Path.render (p : Path) : List Char :=
  let filters := if p.filters.isEmpty then []
    else '[' :: " and ".toList.intercalate (Filter.renderAll p.filters) ++ [']']
  '/' :: '/' :: p.tag.elim ['*'] (·.chars) ++ filters

/-- The text of a union of paths. -/
def render (paths : List Path) : List Char := " | ".toList.intercalate (paths.map Path.render)

/-! ### Filters of formulas -/

/-- The filter of a test. -/
def Filter.ofTest : Test Name → Filter
  | .attr name relation value =>
    .test (.attr name) (.relation relation) (.ofValue value.toList)
  | .comparison subject comparison value => .test subject comparison (.ofValue value.toList)

mutual

/-- The filter of a formula without tags. -/
def Filter.ofFormula : Formula Empty → Filter
  | .tag t => nomatch t
  | .test t => .ofTest t
  | .all fs => .all (ofFormulas fs)
  | .any fs => .any (ofFormulas fs)
  | .not f => .not (ofFormula f)

/-- The filters of formulas without tags. -/
def Filter.ofFormulas : List (Formula Empty) → List Filter
  | [] => []
  | f :: fs => .ofFormula f :: ofFormulas fs

end

/-- One filter for several that must all hold. -/
def Filter.conj : List Filter → Filter
  | [f] => f
  | fs => .all fs

/-- One filter for several of which one must hold. -/
def Filter.disj : List Filter → Filter
  | [f] => f
  | fs => .any fs

end WebDriverClient.Locator.XPath
