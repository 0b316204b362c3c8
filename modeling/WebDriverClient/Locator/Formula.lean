/-
**Locator formulas.**

The formula of an expression has conjunctions and disjunctions of any length, none of which
directly contains its own kind, so chained operators leave no trace of how they were grouped.  Its
names have been checked and it holds no link text.  The type of its tags is a parameter: a formula
without tags is one whose tags are of the empty type.

Main definitions:

* `Locator.Formula` — the formulas;
* `Locator.Formula.ofExpression?` — the formula of an expression, or the leftmost fault in it;
* `Locator.Formula.tagFree?` — the formula without tags, or the first tag in it;
* `Locator.Formula.eval` — its truth value.
-/

import WebDriverClient.Locator.Expression
import WebDriverClient.Locator.Failure
import WebDriverClient.Locator.Name

set_option autoImplicit false

namespace WebDriverClient.Locator

/-- A Boolean combination of tests and of tags of type `τ`. -/
inductive Formula (τ : Type) where
  | tag (t : τ)
  | test (t : Test Name)
  | all (operands : List (Formula τ))
  | any (branches : List (Formula τ))
  | not (inner : Formula τ)

namespace Formula

variable {τ : Type}

/-! ### Formulas of expressions -/

/-- The operands of a formula read as a conjunction. -/
def operands : Formula τ → List (Formula τ)
  | .all fs => fs
  | f => [f]

/-- The branches of a formula read as a disjunction. -/
def branches : Formula τ → List (Formula τ)
  | .any fs => fs
  | f => [f]

/-- The name of the given kind, or the reason against it. -/
def validName (kind : NameKind) (name : String) : Except Failure Name :=
  match Name.ofString? name with
  | some n => .ok n
  | none => .error (.invalidName kind name)

/-- A test whose name has been checked. -/
def validTest : Test String → Except Failure (Test Name)
  | .attr name relation value => do
    return .attr (← validName .attr name) relation value
  | .comparison (.attr name) comparison value => do
    return .comparison (.attr (← validName .attr name)) comparison value
  | .comparison (.function name) comparison value => do
    return .comparison (.function (← validName .function name)) comparison value

/-- The formula of one condition. -/
def ofCondition? : Condition → Except Failure (Formula Name)
  | .test t => do return .test (← validTest t)
  | .tag t => do return .tag (← validName .tag t.text)
  | .linkText text _ => .error (.linkTextNotComposable text)

/-- The formula of an expression, or the leftmost fault in it. -/
def ofExpression? : Expression → Except Failure (Formula Name)
  | .leaf c => ofCondition? c
  | .and l r => do
    let l ← ofExpression? l
    let r ← ofExpression? r
    return .all (l.operands ++ r.operands)
  | .or l r => do
    let l ← ofExpression? l
    let r ← ofExpression? r
    return .any (l.branches ++ r.branches)
  | .not e => do return .not (← ofExpression? e)

/-! ### Formulas without tags -/

mutual

/-- The formula without tags, or the first tag in it. -/
def tagFree? : Formula τ → Except τ (Formula Empty)
  | .tag t => .error t
  | .test t => .ok (.test t)
  | .all fs => do return .all (← tagFreeAll? fs)
  | .any fs => do return .any (← tagFreeAll? fs)
  | .not f => do return .not (← tagFree? f)

/-- `tagFree?` for each formula of a list. -/
def tagFreeAll? : List (Formula τ) → Except τ (List (Formula Empty))
  | [] => .ok []
  | f :: fs => do
    let f ← tagFree? f
    let fs ← tagFreeAll? fs
    return f :: fs

end

mutual

/-- A formula without tags as a formula with tags of any type. -/
def ofTagFree : Formula Empty → Formula τ
  | .tag t => nomatch t
  | .test t => .test t
  | .all fs => .all (ofTagFreeAll fs)
  | .any fs => .any (ofTagFreeAll fs)
  | .not f => .not (ofTagFree f)

/-- `ofTagFree` for each formula of a list. -/
def ofTagFreeAll : List (Formula Empty) → List (Formula τ)
  | [] => []
  | f :: fs => ofTagFree f :: ofTagFreeAll fs

end

/-! ### Truth -/

mutual

/-- The truth value of a formula, for given truth values of its tags and tests. -/
def eval (tags : τ → Bool) (tests : Test Name → Bool) : Formula τ → Bool
  | .tag t => tags t
  | .test t => tests t
  | .all fs => evalAll tags tests fs
  | .any fs => evalAny tags tests fs
  | .not f => !eval tags tests f

/-- All formulas of a list are true. -/
def evalAll (tags : τ → Bool) (tests : Test Name → Bool) : List (Formula τ) → Bool
  | [] => true
  | f :: fs => eval tags tests f && evalAll tags tests fs

/-- One formula of a list is true. -/
def evalAny (tags : τ → Bool) (tests : Test Name → Bool) : List (Formula τ) → Bool
  | [] => false
  | f :: fs => eval tags tests f || evalAny tags tests fs

end

end Formula

end WebDriverClient.Locator
