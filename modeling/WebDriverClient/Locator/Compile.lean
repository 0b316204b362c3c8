/-
**Compilation of locators.**

The text of a link and a tag on its own have strategies of their own.  Every other expression is
distributed into clauses.  A clause fixes at most one tag, and its other operands become filters;
if they are all tests of attributes, it is a compound CSS selector too.  Clauses that agree on the
tag and all have a CSS form are a CSS selector.  Otherwise clauses without tags are alternatives
inside one XPath filter, and any others are a union of paths.

Main definitions:

* `Locator.Conjunction` — a clause as a tag and filters;
* `Locator.Selector` — a selector before it is written;
* `Locator.Expression.selector` — the selector of an expression;
* `Locator.Expression.compile` — the query of an expression.
-/

import WebDriverClient.Locator.Css
import WebDriverClient.Locator.Distribution
import WebDriverClient.Locator.Query
import WebDriverClient.Locator.XPath

set_option autoImplicit false

namespace WebDriverClient.Locator

/-! ### Clauses -/

/-- A clause as a tag and filters. -/
structure Conjunction where
  tag : Option Name
  /-- The tests of attributes, if there are no other filters. -/
  attributes : Option (List Css.Attribute)
  filters : List XPath.Filter

namespace Conjunction

/-- The clause that asks nothing. -/
def empty : Conjunction := ⟨none, some [], []⟩

/-- The test as a test of an attribute. -/
def cssTest? : Test Name → Option Css.Attribute
  | .attr name relation value => some ⟨name, relation, value⟩
  | .comparison .. => none

/-- Adds an operand.  A second tag must be the same as the first, and a negation may hold none. -/
def add (c : Conjunction) : Operand → Except Failure Conjunction
  | .tag t =>
    match c.tag with
    | none => .ok { c with tag := some t }
    | some s => if s = t then .ok c else .error (.tagContradiction s.text t.text)
  | .test t =>
    let attributes := match c.attributes, cssTest? t with
      | some as, some a => some (as ++ [a])
      | _, _ => none
    .ok ⟨c.tag, attributes, c.filters ++ [.ofTest t]⟩
  | .any fs => .ok ⟨c.tag, none, c.filters ++ [.any (XPath.Filter.ofFormulas fs)]⟩
  | .not f =>
    match f.tagFree? with
    | .ok f => .ok ⟨c.tag, none, c.filters ++ [.not (.ofFormula f)]⟩
    | .error t => .error (.negatedTag t.text)

/-- Adds operands from the left. -/
def addAll (c : Conjunction) : List Operand → Except Failure Conjunction
  | [] => .ok c
  | o :: os => do addAll (← c.add o) os

/-- A clause as a tag and filters, or the leftmost fault in it. -/
def ofClause (c : Clause) : Except Failure Conjunction := empty.addAll c

/-- The clause as a compound CSS selector. -/
def compound? (c : Conjunction) : Option Css.Compound := c.attributes.map (⟨c.tag, ·⟩)

/-- The clause as a path. -/
def path (c : Conjunction) : XPath.Path :=
  match c.tag with
  | some t => ⟨some t, c.filters⟩
  | none => ⟨none, [.conj c.filters]⟩

end Conjunction

/-- The clauses as tags and filters, or the leftmost fault in them. -/
def conjunctions : List Clause → Except Failure (List Conjunction)
  | [] => .ok []
  | c :: cs => do
    let c ← Conjunction.ofClause c
    let cs ← conjunctions cs
    return c :: cs

/-! ### Selectors -/

/-- A selector before it is written. -/
inductive Selector where
  | css (selectors : List Css.Compound)
  | xpath (paths : List XPath.Path)
  | linkText (text : String) (part : Bool)
  | tagName (t : Name)

namespace Selector

/-- The compound CSS selectors of all clauses. -/
def compounds? : List Conjunction → Option (List Css.Compound)
  | [] => some []
  | c :: cs =>
    match c.compound?, compounds? cs with
    | some x, some xs => some (x :: xs)
    | _, _ => none

/-- All clauses fix the same tag, or none does. -/
def sameTag : List Conjunction → Bool
  | [] => true
  | c :: cs => cs.all (·.tag = c.tag)

/-- The XPath selector of clauses. -/
def xpathOf (cs : List Conjunction) : Selector :=
  if cs.all (·.tag = none) then .xpath [⟨none, [.disj (cs.map fun c => .conj c.filters)]⟩]
  else .xpath (cs.map Conjunction.path)

/-- The selector of clauses, one of which must hold. -/
def ofConjunctions (cs : List Conjunction) : Selector :=
  match compounds? cs with
  | some compounds => if sameTag cs then .css compounds else xpathOf cs
  | none => xpathOf cs

/-- The selector as a query. -/
def toQuery : Selector → Query
  | .css selectors => ⟨.css, String.ofList (Css.render selectors)⟩
  | .xpath paths => ⟨.xpath, String.ofList (XPath.render paths)⟩
  | .linkText text false => ⟨.linkText, text⟩
  | .linkText text true => ⟨.partialLinkText, text⟩
  | .tagName t => ⟨.tagName, t.text⟩

end Selector

namespace Formula

/-- The selector of a formula. -/
def selector (f : Formula Name) : Except Failure Selector := do
  return .ofConjunctions (← conjunctions f.clauses)

end Formula

namespace Expression

/-- The selector of an expression. -/
def selector : Expression → Except Failure Selector
  | .leaf (.linkText text part) => .ok (.linkText text part)
  | .leaf (.tag t) => do return .tagName (← Formula.validName .tag t.text)
  | e => do (← Formula.ofExpression? e).selector

/-- The query of an expression. -/
def compile (e : Expression) : Except Failure Query := do return (← e.selector).toQuery

end Expression

end WebDriverClient.Locator
