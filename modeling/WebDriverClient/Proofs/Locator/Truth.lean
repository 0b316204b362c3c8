/-
**The truth of clauses.**

Distribution turns a formula into clauses, and a formula is true exactly when one of its clauses is,
whatever the truth values of its tags and tests are.  Nothing here needs the formula to come from an
expression.

Main definitions:

* `Locator.Operand.eval`, `Locator.Clause.eval` — the truth value of an operand and of a clause.

Main results:

* `Locator.Formula.eval_of_tagFree?` — leaving out that a formula has no tags changes nothing;
* `Locator.Formula.any_eval_clauses` — **a formula is true exactly when one of its clauses is**;
* `Locator.Formula.eval_distributed` — distribution keeps the truth value.
-/

import WebDriverClient.Proofs.Locator.Clauses

set_option autoImplicit false

namespace WebDriverClient.Locator

namespace Formula

variable {τ : Type}

/-! ### Lists of formulas -/

theorem evalAll_eq (tags : τ → Bool) (tests : Test Name → Bool) (fs : List (Formula τ)) :
    evalAll tags tests fs = fs.all (eval tags tests) := by
  induction fs with
  | nil => rfl
  | cons f fs ih => rw [evalAll, ih, List.all_cons]

theorem evalAny_eq (tags : τ → Bool) (tests : Test Name → Bool) (fs : List (Formula τ)) :
    evalAny tags tests fs = fs.any (eval tags tests) := by
  induction fs with
  | nil => rfl
  | cons f fs ih => rw [evalAny, ih, List.any_cons]

/-! ### Formulas without tags -/

/-- No tag is true or false of a formula without tags. -/
abbrev noTags : Empty → Bool := fun t => nomatch t

section

variable (tags : τ → Bool) (tests : Test Name → Bool)

mutual

theorem eval_ofTagFree : ∀ f : Formula Empty, (ofTagFree f).eval tags tests = f.eval noTags tests
  | .test _ => rfl
  | .all fs => by
      rw [ofTagFree, eval, eval, evalAll_eq, evalAll_eq]
      exact (evals_ofTagFreeAll fs).1
  | .any fs => by
      rw [ofTagFree, eval, eval, evalAny_eq, evalAny_eq]
      exact (evals_ofTagFreeAll fs).2
  | .not f => by rw [ofTagFree, eval, eval, eval_ofTagFree f]

theorem evals_ofTagFreeAll : ∀ fs : List (Formula Empty),
    (ofTagFreeAll fs).all (eval tags tests) = fs.all (eval noTags tests) ∧
      (ofTagFreeAll fs).any (eval tags tests) = fs.any (eval noTags tests)
  | [] => ⟨rfl, rfl⟩
  | f :: fs => by
      obtain ⟨hall, hany⟩ := evals_ofTagFreeAll fs
      rw [ofTagFreeAll, List.all_cons, List.all_cons, List.any_cons, List.any_cons,
        eval_ofTagFree f, hall, hany]
      exact ⟨rfl, rfl⟩

end

mutual

/-- A formula and the same formula without tags have one truth value. -/
theorem eval_of_tagFree? : ∀ (f : Formula τ) {g : Formula Empty}, f.tagFree? = .ok g →
    g.eval noTags tests = f.eval tags tests
  | .tag t, _, h => by cases h
  | .test t, _, h => by
      cases h
      rfl
  | .all fs, _, h => by
      obtain ⟨gs, hgs, h⟩ := Except.bind_eq_ok_iff.1 h
      cases h
      rw [eval, eval, evalAll_eq, evalAll_eq]
      exact (evals_of_tagFreeAll? fs hgs).1
  | .any fs, _, h => by
      obtain ⟨gs, hgs, h⟩ := Except.bind_eq_ok_iff.1 h
      cases h
      rw [eval, eval, evalAny_eq, evalAny_eq]
      exact (evals_of_tagFreeAll? fs hgs).2
  | .not f, _, h => by
      obtain ⟨g, hg, h⟩ := Except.bind_eq_ok_iff.1 h
      cases h
      rw [eval, eval, eval_of_tagFree? f hg]

/-- Formulas and the same formulas without tags have the same truth values. -/
theorem evals_of_tagFreeAll? : ∀ (fs : List (Formula τ)) {gs : List (Formula Empty)},
    tagFreeAll? fs = .ok gs →
    gs.all (eval noTags tests) = fs.all (eval tags tests) ∧
      gs.any (eval noTags tests) = fs.any (eval tags tests)
  | [], _, h => by
      cases h
      exact ⟨rfl, rfl⟩
  | f :: fs, _, h => by
      obtain ⟨g, hg, h⟩ := Except.bind_eq_ok_iff.1 h
      obtain ⟨gs, hgs, h⟩ := Except.bind_eq_ok_iff.1 h
      cases h
      obtain ⟨hall, hany⟩ := evals_of_tagFreeAll? fs hgs
      rw [List.all_cons, List.all_cons, List.any_cons, List.any_cons, eval_of_tagFree? f hg, hall,
        hany]
      exact ⟨rfl, rfl⟩

end

end

end Formula

/-! ### Clauses -/

section

variable (tags : Name → Bool) (tests : Test Name → Bool)

/-- The truth value of an operand. -/
def Operand.eval : Operand → Bool
  | .tag t => tags t
  | .test t => tests t
  | .any fs => fs.any (Formula.eval Formula.noTags tests)
  | .not f => !f.eval tags tests

/-- The truth value of a clause: all of its operands hold. -/
def Clause.eval (c : Clause) : Bool := c.all (Operand.eval tags tests)

theorem Operand.eval_toFormula (o : Operand) :
    o.toFormula.eval tags tests = o.eval tags tests := by
  cases o with
  | tag t => rfl
  | test t => rfl
  | any fs =>
      rw [toFormula, Formula.eval, Formula.evalAny_eq]
      exact (Formula.evals_ofTagFreeAll tags tests fs).2
  | not f => rfl

theorem Clause.eval_toFormula (c : Clause) : c.toFormula.eval tags tests = c.eval tags tests := by
  have all : (c.map Operand.toFormula).all (Formula.eval tags tests) = c.eval tags tests := by
    simp [List.all_map, Function.comp_def, Operand.eval_toFormula, eval]
  rw [← all]
  unfold toFormula
  split
  next f h => simp [h]
  next => rw [Formula.eval, Formula.evalAll_eq]

@[simp] theorem Clause.eval_append (a b : Clause) :
    Clause.eval tags tests (a ++ b) = (a.eval tags tests && b.eval tags tests) :=
  List.all_append

namespace Formula

theorem eval_ofClauses (cs : List Clause) :
    (ofClauses cs).eval tags tests = cs.any (Clause.eval tags tests) := by
  have any : (cs.map Clause.toFormula).any (eval tags tests) = cs.any (Clause.eval tags tests) := by
    simp [List.any_map, Function.comp_def, Clause.eval_toFormula]
  rw [← any]
  unfold ofClauses
  split
  next f h => simp [h]
  next => rw [eval, evalAny_eq]

/-- A way to join clauses is true exactly when both parts are. -/
theorem any_eval_joined (as bs : List Clause) :
    (joined as bs).any (Clause.eval tags tests) =
      (as.any (Clause.eval tags tests) && bs.any (Clause.eval tags tests)) := by
  rw [Bool.eq_iff_iff, Bool.and_eq_true, List.any_eq_true, List.any_eq_true, List.any_eq_true]
  constructor
  · rintro ⟨c, hc, h⟩
    obtain ⟨a, ha, b, hb, rfl⟩ := mem_joined.1 hc
    rw [Clause.eval_append, Bool.and_eq_true] at h
    exact ⟨⟨a, ha, h.1⟩, b, hb, h.2⟩
  · rintro ⟨⟨a, ha, h₁⟩, b, hb, h₂⟩
    exact ⟨a ++ b, mem_joined.2 ⟨a, ha, b, hb, rfl⟩, by simp [h₁, h₂]⟩

/-- Kept whole or not, an operand of a conjunction has the truth value of its formula. -/
theorem any_eval_choices {f : Formula Name}
    (h : (clauses f).any (Clause.eval tags tests) = f.eval tags tests) :
    (choices f).any (Clause.eval tags tests) = f.eval tags tests := by
  rcases choices_cases f with hc | ⟨fs, gs, rfl, hgs, hc⟩
  · rw [hc, h]
  · rw [hc, eval, evalAny_eq, ← (evals_of_tagFreeAll? tags tests fs hgs).2]
    simp [Clause.eval, Operand.eval]

mutual

/-- **A formula is true exactly when one of its clauses is.** -/
theorem any_eval_clauses : ∀ f : Formula Name,
    (clauses f).any (Clause.eval tags tests) = f.eval tags tests
  | .tag t => by simp [clauses, Clause.eval, Operand.eval, eval]
  | .test t => by simp [clauses, Clause.eval, Operand.eval, eval]
  | .not f => by
      simp [clauses, Clause.eval, Operand.eval, eval, eval_ofClauses, any_eval_clauses f]
  | .any fs => by rw [clauses, eval, any_eval_clausesOfAny fs]
  | .all fs => by rw [clauses, eval, any_eval_clausesOfAll fs]

theorem any_eval_clausesOfAny : ∀ fs : List (Formula Name),
    (clausesOfAny fs).any (Clause.eval tags tests) = evalAny tags tests fs
  | [] => rfl
  | f :: fs => by
      rw [clausesOfAny, List.any_append, any_eval_clauses f, any_eval_clausesOfAny fs, evalAny]

theorem any_eval_clausesOfAll : ∀ fs : List (Formula Name),
    (clausesOfAll fs).any (Clause.eval tags tests) = evalAll tags tests fs
  | [] => rfl
  | f :: fs => by
      rw [clausesOfAll_cons, any_eval_joined, any_eval_choices tags tests (any_eval_clauses f),
        any_eval_clausesOfAll fs, evalAll]

end

/-- Distribution keeps the truth value. -/
theorem eval_distributed (f : Formula Name) :
    f.distributed.eval tags tests = f.eval tags tests := by
  rw [distributed, eval_ofClauses, any_eval_clauses]

end Formula

end

end WebDriverClient.Locator
