/-
**Distribution of tags.**

A selector fixes the tag of an element at one place, so a disjunction that fixes tags may not stand
inside a conjunction.  Distribution turns a formula into clauses, one for each way to choose a
branch of every such disjunction: `(a or b) and c` becomes `(a and c) or (b and c)`.  Disjunctions
without tags stay whole, and the order of clauses and of their operands is that of the formula.

Main definitions:

* `Locator.Operand`, `Locator.Clause` — what a clause asks of an element;
* `Locator.Formula.clauses` — the clauses of a formula;
* `Locator.Formula.distributed` — the clauses put together as a formula again.
-/

import WebDriverClient.Locator.Formula

set_option autoImplicit false

namespace WebDriverClient.Locator

/-- One operand of a clause. -/
inductive Operand where
  | tag (t : Name)
  | test (t : Test Name)
  /-- A disjunction without tags. -/
  | any (branches : List (Formula Empty))
  /-- A negation, of a formula that has been distributed. -/
  | not (inner : Formula Name)

/-- Operands that must all hold. -/
abbrev Clause := List Operand

/-- The formula of an operand. -/
def Operand.toFormula : Operand → Formula Name
  | .tag t => .tag t
  | .test t => .test t
  | .any fs => .any (Formula.ofTagFreeAll fs)
  | .not f => .not f

/-- The formula of a clause. -/
def Clause.toFormula (c : Clause) : Formula Name :=
  match c.map Operand.toFormula with
  | [f] => f
  | fs => .all fs

namespace Formula

/-- The formula of clauses, one of which must hold. -/
def ofClauses (cs : List Clause) : Formula Name :=
  match cs.map Clause.toFormula with
  | [f] => f
  | fs => .any fs

/-- The branches of a disjunction without tags. -/
def tagFreeBranches? : Formula Name → Option (List (Formula Empty))
  | .any fs => (tagFreeAll? fs).toOption
  | _ => none

mutual

/-- The clauses of a formula. -/
def clauses : Formula Name → List Clause
  | .tag t => [[.tag t]]
  | .test t => [[.test t]]
  | .not f => [[.not (ofClauses (clauses f))]]
  | .any fs => clausesOfAny fs
  | .all fs => clausesOfAll fs

/-- The clauses of a disjunction. -/
def clausesOfAny : List (Formula Name) → List Clause
  | [] => []
  | f :: fs => clauses f ++ clausesOfAny fs

/-- The clauses of a conjunction: one for each choice of a clause of every operand, where a
disjunction without tags counts as one operand. -/
def clausesOfAll : List (Formula Name) → List Clause
  | [] => [[]]
  | f :: fs =>
    let choices := match tagFreeBranches? f with
      | some branches => [[Operand.any branches]]
      | none => clauses f
    let rest := clausesOfAll fs
    choices.flatMap fun choice => rest.map (choice ++ ·)

end

/-- The formula in which no conjunction has an operand that is a disjunction fixing tags. -/
def distributed (f : Formula Name) : Formula Name := ofClauses f.clauses

end Formula

end WebDriverClient.Locator
