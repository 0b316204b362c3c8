/-
**Chained operators leave no trace of their grouping.**

A chain of conjunctions can be grouped in many ways, and so can a chain of disjunctions.  The
formula of an expression has one list of operands for the whole chain, whichever way it was grouped,
and a fault in it is found from the left in either grouping.  So expressions that differ only in how
their chains are grouped, at any number of places and at any depth, also below negations, have the
same query or are refused for the same reason.

Main definitions:

* `Locator.Expression.Regrouped` — two expressions differ only in how their chains are grouped;
* `Locator.Context` — an expression with a place left open.

Main results:

* `Locator.Expression.Regrouped.ofExpression?_eq` — grouping does not show in the formula;
* `Locator.Expression.Regrouped.compile_eq` — nor in the query;
* `Locator.Context.compile_fill_assoc` — **both groupings of three operands are compiled alike in
  every place of every expression**.
-/

import WebDriverClient.Locator.Compile

set_option autoImplicit false

namespace WebDriverClient.Locator

namespace Expression

/-- The two differ only in how their chains of conjunctions and of disjunctions are grouped. -/
inductive Regrouped : Expression → Expression → Prop
  | refl (e : Expression) : Regrouped e e
  | symm {e e' : Expression} (h : Regrouped e e') : Regrouped e' e
  | trans {e e' e'' : Expression} (h : Regrouped e e') (h' : Regrouped e' e'') : Regrouped e e''
  | andAssoc (a b c : Expression) : Regrouped ((a.and b).and c) (a.and (b.and c))
  | orAssoc (a b c : Expression) : Regrouped ((a.or b).or c) (a.or (b.or c))
  | and {l l' r r' : Expression} (hl : Regrouped l l') (hr : Regrouped r r') :
      Regrouped (l.and r) (l'.and r')
  | or {l l' r r' : Expression} (hl : Regrouped l l') (hr : Regrouped r r') :
      Regrouped (l.or r) (l'.or r')
  | not {e e' : Expression} (h : Regrouped e e') : Regrouped e.not e'.not

end Expression

namespace Formula

/-- A conjunction of three operands has the operands of all three, however it is grouped. -/
theorem ofExpression?_and_assoc (a b c : Expression) :
    ofExpression? ((a.and b).and c) = ofExpression? (a.and (b.and c)) := by
  simp only [ofExpression?]
  cases ofExpression? a with
  | error x => rfl
  | ok f =>
      cases ofExpression? b with
      | error x => rfl
      | ok g =>
          cases ofExpression? c with
          | error x => rfl
          | ok h => exact congrArg (fun fs => Except.ok (Formula.all fs)) (List.append_assoc _ _ _)

/-- A disjunction of three branches has the branches of all three, however it is grouped. -/
theorem ofExpression?_or_assoc (a b c : Expression) :
    ofExpression? ((a.or b).or c) = ofExpression? (a.or (b.or c)) := by
  simp only [ofExpression?]
  cases ofExpression? a with
  | error x => rfl
  | ok f =>
      cases ofExpression? b with
      | error x => rfl
      | ok g =>
          cases ofExpression? c with
          | error x => rfl
          | ok h => exact congrArg (fun fs => Except.ok (Formula.any fs)) (List.append_assoc _ _ _)

end Formula

namespace Expression

/-- Grouping does not show in the formula, nor in the fault that is found first. -/
theorem Regrouped.ofExpression?_eq {e e' : Expression} (h : Regrouped e e') :
    Formula.ofExpression? e = Formula.ofExpression? e' := by
  induction h with
  | refl e => rfl
  | symm _ ih => exact ih.symm
  | trans _ _ ih ih' => exact ih.trans ih'
  | andAssoc a b c => exact Formula.ofExpression?_and_assoc a b c
  | orAssoc a b c => exact Formula.ofExpression?_or_assoc a b c
  | and _ _ ihl ihr => simp only [Formula.ofExpression?, ihl, ihr]
  | or _ _ ihl ihr => simp only [Formula.ofExpression?, ihl, ihr]
  | not _ ih => simp only [Formula.ofExpression?, ih]

/-- The expression is a condition and nothing else. -/
def IsLeaf (e : Expression) : Prop := ∃ c, e = .leaf c

/-- A leaf is in no chain. -/
theorem Regrouped.eq_or_not_isLeaf {e e' : Expression} (h : Regrouped e e') :
    e = e' ∨ ¬ e.IsLeaf ∧ ¬ e'.IsLeaf := by
  induction h with
  | refl e => exact .inl rfl
  | symm _ ih => exact ih.imp Eq.symm And.symm
  | trans _ _ ih ih' =>
      rcases ih with rfl | ⟨left, middle⟩
      · exact ih'
      · rcases ih' with rfl | ⟨-, right⟩
        · exact .inr ⟨left, middle⟩
        · exact .inr ⟨left, right⟩
  | _ => exact .inr (by simp [IsLeaf])

theorem selector_of_not_isLeaf {e : Expression} (h : ¬ e.IsLeaf) :
    e.selector = Formula.ofExpression? e >>= Formula.selector := by
  match e with
  | .leaf c => exact absurd ⟨c, rfl⟩ h
  | .and l r => rfl
  | .or l r => rfl
  | .not inner => rfl

/-- Grouping does not show in the query, nor in the reason for which there is none. -/
theorem Regrouped.compile_eq {e e' : Expression} (h : Regrouped e e') :
    e.compile = e'.compile := by
  rcases h.eq_or_not_isLeaf with rfl | ⟨left, right⟩
  · rfl
  · rw [compile, compile, selector_of_not_isLeaf left, selector_of_not_isLeaf right,
      h.ofExpression?_eq]

end Expression

/-! ### Places in expressions -/

/-- An expression with a place left open. -/
inductive Context where
  | place
  | andLeft (inner : Context) (right : Expression)
  | andRight (left : Expression) (inner : Context)
  | orLeft (inner : Context) (right : Expression)
  | orRight (left : Expression) (inner : Context)
  | not (inner : Context)

namespace Context

/-- The expression with another in the place that was left open. -/
def fill : Context → Expression → Expression
  | place, e => e
  | andLeft inner right, e => (inner.fill e).and right
  | andRight left inner, e => left.and (inner.fill e)
  | orLeft inner right, e => (inner.fill e).or right
  | orRight left inner, e => left.or (inner.fill e)
  | not inner, e => (inner.fill e).not

theorem regrouped_fill (C : Context) {e e' : Expression} (h : e.Regrouped e') :
    (C.fill e).Regrouped (C.fill e') := by
  induction C with
  | place => exact h
  | andLeft inner right ih => exact .and ih (.refl right)
  | andRight left inner ih => exact .and (.refl left) ih
  | orLeft inner right ih => exact .or ih (.refl right)
  | orRight left inner ih => exact .or (.refl left) ih
  | not inner ih => exact .not ih

/-- **Both groupings of three operands are compiled alike in every place of every expression**: to
the same query, or not for the same reason. -/
theorem compile_fill_assoc (C : Context) (a b c : Expression) :
    (C.fill ((a.and b).and c)).compile = (C.fill (a.and (b.and c))).compile ∧
      (C.fill ((a.or b).or c)).compile = (C.fill (a.or (b.or c))).compile :=
  ⟨(C.regrouped_fill (.andAssoc a b c)).compile_eq, (C.regrouped_fill (.orAssoc a b c)).compile_eq⟩

end Context

end WebDriverClient.Locator
