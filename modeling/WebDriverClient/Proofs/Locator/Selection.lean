/-
**What a selector selects.**

A selector is built from the clauses of an expression: each clause becomes a tag and filters, and
the clauses become a list of CSS selectors, one XPath filter or a union of XPath paths.  Every one of
these forms selects the elements of which the expression is true.

The truth of a comparison on an element is left open.  It is one truth value for one comparison,
whether the comparison is written in CSS or in XPath.

Main definitions:

* `Locator.Node` — what selectors can see of an element;
* `Locator.Expression.holds` — the truth of an expression on an element;
* `Locator.Css.Compound.selects`, `Locator.XPath.Filter.holds`, `Locator.XPath.Path.selects`,
  `Locator.Selector.selects` — the meaning of selectors.

Main results:

* `Locator.Conjunction.holds_of_addAll` — operands put together hold exactly when each does;
* `Locator.Expression.selects_of_selector` — **the selector of an expression selects the elements of
  which the expression is true**.
-/

import WebDriverClient.Proofs.Locator.Tests
import WebDriverClient.Proofs.Locator.Truth
import WebDriverClient.Proofs.Locator.XPath.Operand

set_option autoImplicit false

namespace WebDriverClient.Locator

/-! ### Elements -/

/-- What selectors can see of an element. -/
structure Node where
  tag : String
  /-- Whether a comparison with a value holds of it. -/
  passes : Subject String → Comparison → String → Bool
  /-- Whether it is a link with a visible text, or with a text that contains one. -/
  shows : String → Bool → Bool

namespace Node

/-- The element has a tag. -/
def hasTag (x : Node) (t : Name) : Bool := x.tag = t.text

/-- The element passes a test whose name has been checked. -/
def passesTest (x : Node) : Test Name → Bool
  | .attr name relation value => x.passes (.attr name.text) (.relation relation) value
  | .comparison subject comparison value => x.passes subject.text comparison value

end Node

/-- The truth of a condition on an element. -/
def Condition.holds (x : Node) : Condition → Bool
  | .test (.attr name relation value) => x.passes (.attr name) (.relation relation) value
  | .test (.comparison subject comparison value) => x.passes subject comparison value
  | .tag t => x.tag = t.text
  | .linkText text part => x.shows text part

/-- The truth of an expression on an element. -/
def Expression.holds (x : Node) : Expression → Bool
  | .leaf c => c.holds x
  | .and l r => l.holds x && r.holds x
  | .or l r => l.holds x || r.holds x
  | .not e => !e.holds x

namespace Formula

theorem eval_operands (f : Formula Name) (tags : Name → Bool) (tests : Test Name → Bool) :
    f.operands.all (eval tags tests) = f.eval tags tests := by
  cases f <;> simp [operands, eval, evalAll_eq]

theorem eval_branches (f : Formula Name) (tags : Name → Bool) (tests : Test Name → Bool) :
    f.branches.any (eval tags tests) = f.eval tags tests := by
  cases f <;> simp [branches, eval, evalAny_eq]

theorem passesTest_of_validTest {t : Test String} {n : Test Name} (h : validTest t = .ok n)
    (x : Node) : x.passesTest n = Condition.holds x (.test t) := by
  rcases t with ⟨name, _, _⟩ | ⟨name | name, _, _⟩
  all_goals
    obtain ⟨m, hm, h⟩ := Except.bind_eq_ok_iff.1 h
    cases h
    simp [Node.passesTest, Condition.holds, Subject.text, text_of_validName hm]

/-- The formula of an expression has its truth value. -/
theorem eval_of_ofExpression? {e : Expression} {f : Formula Name} (h : ofExpression? e = .ok f)
    (x : Node) : f.eval x.hasTag x.passesTest = e.holds x := by
  induction e generalizing f with
  | leaf c =>
      rcases ofExpression?_leaf.1 h with ⟨t, n, rfl, hn, rfl⟩ | ⟨t, n, rfl, hn, rfl⟩
      · exact passesTest_of_validTest hn x
      · simp [eval, Node.hasTag, Expression.holds, Condition.holds, text_of_validName hn]
  | and l r ihl ihr =>
      obtain ⟨a, b, ha, hb, rfl⟩ := ofExpression?_and.1 h
      rw [eval, evalAll_eq, List.all_append, eval_operands, eval_operands, ihl ha, ihr hb,
        Expression.holds]
  | or l r ihl ihr =>
      obtain ⟨a, b, ha, hb, rfl⟩ := ofExpression?_or.1 h
      rw [eval, evalAny_eq, List.any_append, eval_branches, eval_branches, ihl ha, ihr hb,
        Expression.holds]
  | not e ih =>
      obtain ⟨a, ha, rfl⟩ := ofExpression?_not.1 h
      rw [eval, ih ha, Expression.holds]

end Formula

/-! ### The meaning of selectors -/

/-- The element passes a test of an attribute. -/
def Css.Attribute.holds (x : Node) (a : Css.Attribute) : Bool :=
  x.passes (.attr a.name.text) (.relation a.relation) a.value

/-- The element has the tag, if one is asked, and passes the tests. -/
def Css.Compound.selects (x : Node) (c : Css.Compound) : Bool :=
  c.tag.all x.hasTag && c.attributes.all (Css.Attribute.holds x)

namespace XPath

mutual

/-- The element meets a condition. -/
def Filter.holds (x : Node) : Filter → Bool
  | .test subject comparison operand =>
    x.passes subject.text comparison (String.ofList operand.denote)
  | .all fs => Filter.holdAll x fs
  | .any fs => Filter.holdAny x fs
  | .not f => !f.holds x

/-- The element meets all conditions. -/
def Filter.holdAll (x : Node) : List Filter → Bool
  | [] => true
  | f :: fs => f.holds x && Filter.holdAll x fs

/-- The element meets one of the conditions. -/
def Filter.holdAny (x : Node) : List Filter → Bool
  | [] => false
  | f :: fs => f.holds x || Filter.holdAny x fs

end

/-- The element has the tag, if one is asked, and meets the conditions. -/
def Path.selects (x : Node) (p : Path) : Bool :=
  p.tag.all x.hasTag && p.filters.all (Filter.holds x)

end XPath

/-- The element is selected. -/
def Selector.selects (x : Node) : Selector → Bool
  | .css selectors => selectors.any (Css.Compound.selects x)
  | .xpath paths => paths.any (XPath.Path.selects x)
  | .linkText text part => x.shows text part
  | .tagName t => x.hasTag t

/-! ### Filters of tests and formulas -/

namespace XPath

theorem Filter.holdAll_eq (x : Node) (fs : List Filter) :
    Filter.holdAll x fs = fs.all (Filter.holds x) := by
  induction fs with
  | nil => rfl
  | cons f fs ih => rw [holdAll, ih, List.all_cons]

theorem Filter.holdAny_eq (x : Node) (fs : List Filter) :
    Filter.holdAny x fs = fs.any (Filter.holds x) := by
  induction fs with
  | nil => rfl
  | cons f fs ih => rw [holdAny, ih, List.any_cons]

theorem Filter.holds_ofTest (x : Node) (t : Test Name) :
    (Filter.ofTest t).holds x = x.passesTest t := by
  cases t <;> simp [ofTest, holds, Operand.denote_ofValue, Node.passesTest, Subject.text]

mutual

/-- A formula without tags and its filter have one truth value. -/
theorem Filter.holds_ofFormula (x : Node) : ∀ f : Formula Empty,
    (Filter.ofFormula f).holds x = f.eval Formula.noTags x.passesTest
  | .test t => Filter.holds_ofTest x t
  | .all fs => by
      rw [ofFormula, holds, Filter.holdAll_eq, Formula.eval, Formula.evalAll_eq]
      exact (Filter.holds_ofFormulas x fs).1
  | .any fs => by
      rw [ofFormula, holds, Filter.holdAny_eq, Formula.eval, Formula.evalAny_eq]
      exact (Filter.holds_ofFormulas x fs).2
  | .not f => by rw [ofFormula, holds, Formula.eval, Filter.holds_ofFormula x f]

/-- Formulas without tags and their filters have the same truth values. -/
theorem Filter.holds_ofFormulas (x : Node) : ∀ fs : List (Formula Empty),
    (Filter.ofFormulas fs).all (Filter.holds x) =
        fs.all (Formula.eval Formula.noTags x.passesTest) ∧
      (Filter.ofFormulas fs).any (Filter.holds x) =
        fs.any (Formula.eval Formula.noTags x.passesTest)
  | [] => ⟨rfl, rfl⟩
  | f :: fs => by
      obtain ⟨hall, hany⟩ := Filter.holds_ofFormulas x fs
      rw [ofFormulas, List.all_cons, List.all_cons, List.any_cons, List.any_cons,
        Filter.holds_ofFormula x f, hall, hany]
      exact ⟨rfl, rfl⟩

end

theorem Filter.holds_conj (x : Node) (fs : List Filter) :
    (Filter.conj fs).holds x = fs.all (Filter.holds x) := by
  unfold conj
  split
  · simp
  · rw [holds, holdAll_eq]

theorem Filter.holds_disj (x : Node) (fs : List Filter) :
    (Filter.disj fs).holds x = fs.any (Filter.holds x) := by
  unfold disj
  split
  · simp
  · rw [holds, holdAny_eq]

end XPath

/-! ### From clauses to selectors -/

namespace Conjunction

/-- The element has the tag, if one is fixed, and meets the filters. -/
def holds (x : Node) (c : Conjunction) : Bool :=
  c.tag.all x.hasTag && c.filters.all (XPath.Filter.holds x)

/-- The tests of attributes, where there are no other filters, say what the filters say. -/
def Agrees (x : Node) (c : Conjunction) : Prop :=
  ∀ as, c.attributes = some as →
    as.all (Css.Attribute.holds x) = c.filters.all (XPath.Filter.holds x)

theorem holds_cssTest? {x : Node} {t : Test Name} {a : Css.Attribute} (h : cssTest? t = some a) :
    a.holds x = (XPath.Filter.ofTest t).holds x := by
  cases t with
  | attr name relation value =>
      cases h
      rw [XPath.Filter.holds_ofTest]
      rfl
  | comparison subject comparison value => cases h

/-- One more operand is one more thing that must hold. -/
theorem holds_of_add {x : Node} {c d : Conjunction} {o : Operand} (h : c.add o = .ok d) :
    d.holds x = (c.holds x && o.eval x.hasTag x.passesTest) := by
  cases o with
  | tag t =>
      simp only [add] at h
      split at h
      next hc =>
        cases h
        simp [holds, hc, Operand.eval, Bool.and_comm]
      next s hc =>
        split at h
        next hst =>
          cases h
          subst hst
          cases hs : x.hasTag s <;> simp [holds, hc, Operand.eval, hs]
        next => cases h
  | test t =>
      cases h
      simp [holds, Operand.eval, XPath.Filter.holds_ofTest, Bool.and_assoc]
  | any fs =>
      cases h
      have any := (XPath.Filter.holds_ofFormulas x fs).2
      simp [holds, Operand.eval, XPath.Filter.holds, XPath.Filter.holdAny_eq, any, Bool.and_assoc]
  | not f =>
      simp only [add] at h
      split at h
      next g hg =>
        cases h
        have hf := Formula.eval_of_tagFree? x.hasTag x.passesTest f hg
        simp [holds, Operand.eval, XPath.Filter.holds, XPath.Filter.holds_ofFormula, hf,
          Bool.and_assoc]
      next => cases h

/-- One more operand leaves tests of attributes and filters in agreement. -/
theorem agrees_of_add {x : Node} {c d : Conjunction} {o : Operand} (h : c.add o = .ok d)
    (hc : c.Agrees x) : d.Agrees x := by
  cases o with
  | tag t =>
      simp only [add] at h
      split at h
      · cases h
        exact hc
      · split at h
        · cases h
          exact hc
        · cases h
  | test t =>
      cases h
      intro as has
      dsimp only at has ⊢
      split at has
      next bs b hbs hb =>
        cases has
        simp [hc bs hbs, holds_cssTest? hb]
      next => cases has
  | any fs =>
      cases h
      intro as has
      cases has
  | not f =>
      simp only [add] at h
      split at h
      · cases h
        intro as has
        cases has
      · cases h

/-- **Operands put together hold exactly when each of them does.** -/
theorem holds_of_addAll {x : Node} {os : List Operand} {c d : Conjunction}
    (h : c.addAll os = .ok d) (hc : c.Agrees x) :
    d.holds x = (c.holds x && Clause.eval x.hasTag x.passesTest os) ∧ d.Agrees x := by
  induction os generalizing c with
  | nil =>
      cases h
      simp [Clause.eval, hc]
  | cons o os ih =>
      obtain ⟨c', hc', h⟩ := Except.bind_eq_ok_iff.1 h
      obtain ⟨hd, agrees⟩ := ih h (agrees_of_add hc' hc)
      refine ⟨?_, agrees⟩
      rw [hd, holds_of_add hc', Clause.eval, Clause.eval, List.all_cons, Bool.and_assoc]

theorem holds_of_ofClause {x : Node} {c : Clause} {d : Conjunction} (h : ofClause c = .ok d) :
    d.holds x = c.eval x.hasTag x.passesTest ∧ d.Agrees x := by
  have agrees : empty.Agrees x := by
    intro as has
    cases has
    rfl
  obtain ⟨hd, hd'⟩ := holds_of_addAll h agrees
  exact ⟨by rw [hd]; simp [holds, empty], hd'⟩

theorem selects_of_compound? {x : Node} {c : Conjunction} {s : Css.Compound}
    (h : c.compound? = some s) (hc : c.Agrees x) : s.selects x = c.holds x := by
  obtain ⟨as, has, rfl⟩ := Option.map_eq_some_iff.1 h
  rw [Css.Compound.selects, holds, hc as has]

theorem selects_path (x : Node) (c : Conjunction) : c.path.selects x = c.holds x := by
  unfold path
  split
  next t ht => simp [XPath.Path.selects, holds, ht]
  next ht => simp [XPath.Path.selects, holds, ht, XPath.Filter.holds_conj]

end Conjunction

theorem any_holds_of_conjunctions {x : Node} {cs : List Clause} {ds : List Conjunction}
    (h : conjunctions cs = .ok ds) :
    ds.any (Conjunction.holds x) = cs.any (Clause.eval x.hasTag x.passesTest) ∧
      ∀ d ∈ ds, d.Agrees x := by
  induction cs generalizing ds with
  | nil =>
      cases h
      simp
  | cons c cs ih =>
      obtain ⟨d, hd, h⟩ := Except.bind_eq_ok_iff.1 h
      obtain ⟨ds, hds, h⟩ := Except.bind_eq_ok_iff.1 h
      cases h
      obtain ⟨holds, agrees⟩ := Conjunction.holds_of_ofClause (x := x) hd
      obtain ⟨any, all⟩ := ih hds
      exact ⟨by rw [List.any_cons, List.any_cons, holds, any], List.forall_mem_cons.2 ⟨agrees, all⟩⟩

namespace Selector

theorem any_selects_of_compounds? {x : Node} {ds : List Conjunction} {ss : List Css.Compound}
    (h : compounds? ds = some ss) (agrees : ∀ d ∈ ds, d.Agrees x) :
    ss.any (Css.Compound.selects x) = ds.any (Conjunction.holds x) := by
  induction ds generalizing ss with
  | nil =>
      cases h
      rfl
  | cons d ds ih =>
      rw [compounds?] at h
      split at h
      next s ss' hs hss =>
        cases h
        obtain ⟨hd, hds⟩ := List.forall_mem_cons.1 agrees
        rw [List.any_cons, List.any_cons, Conjunction.selects_of_compound? hs hd, ih hss hds]
      next => cases h

theorem selects_xpathOf (x : Node) (ds : List Conjunction) :
    (xpathOf ds).selects x = ds.any (Conjunction.holds x) := by
  unfold xpathOf
  split
  next h =>
    -- No clause asks for a tag, so the filters of a clause are all there is to it.
    have untagged : ∀ d ∈ ds, d.tag = none := by simpa using h
    have any : (ds.any fun d => (XPath.Filter.conj d.filters).holds x) =
        ds.any (Conjunction.holds x) := by
      rw [Bool.eq_iff_iff, List.any_eq_true, List.any_eq_true]
      refine exists_congr fun d => and_congr_right fun hd => ?_
      rw [XPath.Filter.holds_conj, Conjunction.holds, untagged d hd, Option.all_none, Bool.true_and]
    simp [selects, XPath.Path.selects, XPath.Filter.holds_disj, List.any_map, Function.comp_def, any]
  next => simp [selects, List.any_map, Function.comp_def, Conjunction.selects_path]

theorem selects_ofConjunctions {x : Node} {ds : List Conjunction}
    (agrees : ∀ d ∈ ds, d.Agrees x) :
    (ofConjunctions ds).selects x = ds.any (Conjunction.holds x) := by
  unfold ofConjunctions
  split
  next ss hss =>
    split
    · exact any_selects_of_compounds? hss agrees
    · exact selects_xpathOf x ds
  next => exact selects_xpathOf x ds

end Selector

theorem Formula.selects_of_selector {x : Node} {f : Formula Name} {s : Selector}
    (h : f.selector = .ok s) : s.selects x = f.eval x.hasTag x.passesTest := by
  obtain ⟨ds, hds, h⟩ := Except.bind_eq_ok_iff.1 h
  cases h
  obtain ⟨any, agrees⟩ := any_holds_of_conjunctions (x := x) hds
  rw [Selector.selects_ofConjunctions agrees, any, any_eval_clauses]

namespace Expression

/-- **The selector of an expression selects the elements of which the expression is true.** -/
theorem selects_of_selector {e : Expression} {s : Selector} (h : e.selector = .ok s) (x : Node) :
    s.selects x = e.holds x := by
  rcases selector_cases h with ⟨text, part, rfl, rfl⟩ | ⟨t, n, rfl, hn, rfl⟩ | ⟨f, hf, hs⟩
  · rfl
  · simp [Selector.selects, Node.hasTag, holds, Condition.holds, Formula.text_of_validName hn]
  · rw [Formula.selects_of_selector hs, Formula.eval_of_ofExpression? hf]

end Expression

end WebDriverClient.Locator
