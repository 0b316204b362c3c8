/-
**The tests of a selector.**

Every test in the selector of an expression is a leaf of the expression: with the same name, the
same comparison and an operand that denotes the same value.  No conjunction and no disjunction on
the way from the one to the other is ever empty.

Main definitions:

* `Locator.Test.subject`, `Locator.Test.relation`, `Locator.Test.value` — the parts of a test;
* `Locator.Formula.MadeOf`, `Locator.XPath.Filter.MadeOf`, `Locator.Selector.MadeOf` — all tests have
  a property and nothing is empty.

Main results:

* `Locator.Formula.madeOf_of_ofExpression?` — a formula is made of the leaves of its expression;
* `Locator.Formula.madeOf_clauses` — clauses are made of what the formula is made of;
* `Locator.Expression.madeOf_of_selector` — **a selector is made of the leaves of its expression**.
-/

import WebDriverClient.Proofs.Locator.Clauses

set_option autoImplicit false

namespace WebDriverClient.Locator

namespace Test

variable {ν : Type}

/-- What a test is about. -/
def subject : Test ν → Subject ν
  | .attr name _ _ => .attr name
  | .comparison s _ _ => s

/-- How a test compares. -/
def relation : Test ν → Comparison
  | .attr _ relation _ => .relation relation
  | .comparison _ c _ => c

/-- The value that a test compares with. -/
def value : Test ν → String
  | .attr _ _ value => value
  | .comparison _ _ value => value

end Test

/-- The subject with its name as a text. -/
def Subject.text : Subject Name → Subject String
  | .attr name => .attr name.text
  | .function name => .function name.text

theorem Formula.parts_of_validTest {t : Test String} {n : Test Name}
    (h : Formula.validTest t = .ok n) :
    n.subject.text = t.subject ∧ n.relation = t.relation ∧ n.value = t.value := by
  rcases t with ⟨name, _, _⟩ | ⟨name | name, _, _⟩
  all_goals
    obtain ⟨m, hm, h⟩ := Except.bind_eq_ok_iff.1 h
    cases h
    exact ⟨by simp [Test.subject, Subject.text, Formula.text_of_validName hm], rfl, rfl⟩

/-! ### Formulas -/

namespace Formula

variable {τ : Type} {P : Test Name → Prop}

/-- All tests of a formula have a property, and none of its conjunctions and disjunctions is
empty. -/
inductive MadeOf (P : Test Name → Prop) : Formula τ → Prop
  | tag (t : τ) : MadeOf P (.tag t)
  | test {t : Test Name} (h : P t) : MadeOf P (.test t)
  | all {fs : List (Formula τ)} (hne : fs ≠ []) (h : ∀ f ∈ fs, MadeOf P f) : MadeOf P (.all fs)
  | any {fs : List (Formula τ)} (hne : fs ≠ []) (h : ∀ f ∈ fs, MadeOf P f) : MadeOf P (.any fs)
  | not {f : Formula τ} (h : MadeOf P f) : MadeOf P (.not f)

theorem MadeOf.mono {Q : Test Name → Prop} {f : Formula τ} (h : f.MadeOf P)
    (hPQ : ∀ t, P t → Q t) : f.MadeOf Q := by
  induction h with
  | tag t => exact .tag t
  | test h => exact .test (hPQ _ h)
  | all hne _ ih => exact .all hne ih
  | any hne _ ih => exact .any hne ih
  | not _ ih => exact .not ih

theorem MadeOf.operands {f : Formula τ} (h : f.MadeOf P) :
    f.operands ≠ [] ∧ ∀ g ∈ f.operands, g.MadeOf P := by
  cases h with
  | all hne h => exact ⟨hne, h⟩
  | tag t => simpa [Formula.operands] using MadeOf.tag t
  | test h => simpa [Formula.operands] using MadeOf.test h
  | any hne h => simpa [Formula.operands] using MadeOf.any hne h
  | not h => simpa [Formula.operands] using MadeOf.not h

theorem MadeOf.branches {f : Formula τ} (h : f.MadeOf P) :
    f.branches ≠ [] ∧ ∀ g ∈ f.branches, g.MadeOf P := by
  cases h with
  | any hne h => exact ⟨hne, h⟩
  | tag t => simpa [Formula.branches] using MadeOf.tag t
  | test h => simpa [Formula.branches] using MadeOf.test h
  | all hne h => simpa [Formula.branches] using MadeOf.all hne h
  | not h => simpa [Formula.branches] using MadeOf.not h

/-- The test is a leaf among some conditions, with its name checked. -/
def IsLeaf (leaves : List Condition) (n : Test Name) : Prop :=
  ∃ t, .test t ∈ leaves ∧ validTest t = .ok n

theorem madeOf_left {leaves : List Condition} {f : Formula τ} (h : f.MadeOf (IsLeaf leaves))
    (e : Expression) : f.MadeOf (IsLeaf (leaves ++ e.leaves)) :=
  h.mono fun _ ⟨t, ht, hn⟩ => ⟨t, List.mem_append_left _ ht, hn⟩

theorem madeOf_right {leaves : List Condition} {f : Formula τ} (h : f.MadeOf (IsLeaf leaves))
    (e : Expression) : f.MadeOf (IsLeaf (e.leaves ++ leaves)) :=
  h.mono fun _ ⟨t, ht, hn⟩ => ⟨t, List.mem_append_right _ ht, hn⟩

/-- A formula is made of the leaves of its expression. -/
theorem madeOf_of_ofExpression? {e : Expression} {f : Formula Name} (h : ofExpression? e = .ok f) :
    f.MadeOf (IsLeaf e.leaves) := by
  induction e generalizing f with
  | leaf c =>
      rcases ofExpression?_leaf.1 h with ⟨t, n, rfl, hn, rfl⟩ | ⟨t, n, -, -, rfl⟩
      · exact .test ⟨t, by simp [Expression.leaves], hn⟩
      · exact .tag n
  | and l r ihl ihr =>
      obtain ⟨a, b, ha, hb, rfl⟩ := ofExpression?_and.1 h
      have left := (madeOf_left (ihl ha) r).operands
      have right := (madeOf_right (ihr hb) l).operands
      exact .all (by simp [left.1]) (List.forall_mem_append.2 ⟨left.2, right.2⟩)
  | or l r ihl ihr =>
      obtain ⟨a, b, ha, hb, rfl⟩ := ofExpression?_or.1 h
      have left := (madeOf_left (ihl ha) r).branches
      have right := (madeOf_right (ihr hb) l).branches
      exact .any (by simp [left.1]) (List.forall_mem_append.2 ⟨left.2, right.2⟩)
  | not e ih =>
      obtain ⟨a, ha, rfl⟩ := ofExpression?_not.1 h
      exact .not (ih ha)

/-! ### Formulas without tags -/

/-- The formulas of a list without tags, one by one. -/
theorem forall₂_of_tagFreeAll? {fs : List (Formula τ)} {gs : List (Formula Empty)}
    (h : tagFreeAll? fs = .ok gs) : List.Forall₂ (fun f g => tagFree? f = .ok g) fs gs := by
  induction fs generalizing gs with
  | nil =>
      cases h
      exact .nil
  | cons f fs ih =>
      obtain ⟨g, hg, h⟩ := Except.bind_eq_ok_iff.1 h
      obtain ⟨gs, hgs, h⟩ := Except.bind_eq_ok_iff.1 h
      cases h
      exact .cons hg (ih hgs)

theorem madeOf_list_of_tagFreeAll? {fs : List (Formula τ)} {gs : List (Formula Empty)}
    (h : tagFreeAll? fs = .ok gs) (hne : fs ≠ [])
    (hfs : ∀ f ∈ fs, ∀ g, tagFree? f = .ok g → g.MadeOf P) : gs ≠ [] ∧ ∀ g ∈ gs, g.MadeOf P := by
  have pairs := forall₂_of_tagFreeAll? h
  clear h
  constructor
  · rintro rfl
    cases pairs
    exact hne rfl
  · clear hne
    induction pairs with
    | nil => simp
    | cons hg _ ih =>
        obtain ⟨hf, hfs⟩ := List.forall_mem_cons.1 hfs
        exact List.forall_mem_cons.2 ⟨hf _ hg, ih hfs⟩

theorem MadeOf.tagFree? {f : Formula τ} (hf : f.MadeOf P) {g : Formula Empty}
    (h : f.tagFree? = .ok g) : g.MadeOf P := by
  induction hf generalizing g with
  | tag t => cases h
  | test ht =>
      cases h
      exact .test ht
  | all hne _ ih =>
      obtain ⟨gs, hgs, h⟩ := Except.bind_eq_ok_iff.1 h
      cases h
      obtain ⟨hne, hgs⟩ := madeOf_list_of_tagFreeAll? hgs hne fun f hf g => ih f hf
      exact .all hne hgs
  | any hne _ ih =>
      obtain ⟨gs, hgs, h⟩ := Except.bind_eq_ok_iff.1 h
      cases h
      obtain ⟨hne, hgs⟩ := madeOf_list_of_tagFreeAll? hgs hne fun f hf g => ih f hf
      exact .any hne hgs
  | not _ ih =>
      obtain ⟨g, hg, h⟩ := Except.bind_eq_ok_iff.1 h
      cases h
      exact .not (ih hg)

theorem ofTagFreeAll_eq (fs : List (Formula Empty)) :
    (ofTagFreeAll fs : List (Formula τ)) = fs.map ofTagFree := by
  induction fs with
  | nil => rfl
  | cons f fs ih => rw [ofTagFreeAll, ih, List.map_cons]

theorem MadeOf.ofTagFree {f : Formula Empty} (h : f.MadeOf P) :
    (ofTagFree f : Formula τ).MadeOf P := by
  induction h with
  | tag t => exact nomatch t
  | test h => exact .test h
  | all hne _ ih =>
      rw [Formula.ofTagFree, ofTagFreeAll_eq]
      exact .all (by simpa using hne) (List.forall_mem_map.2 ih)
  | any hne _ ih =>
      rw [Formula.ofTagFree, ofTagFreeAll_eq]
      exact .any (by simpa using hne) (List.forall_mem_map.2 ih)
  | not _ ih => exact .not ih

end Formula

/-! ### Clauses -/

section

variable {P : Test Name → Prop}

/-- All tests of an operand have a property, and nothing in it is empty. -/
def Operand.MadeOf (P : Test Name → Prop) : Operand → Prop
  | .tag _ => True
  | .test t => P t
  | .any fs => fs ≠ [] ∧ ∀ f ∈ fs, f.MadeOf P
  | .not f => f.MadeOf P

/-- All operands of a clause are made of tests with a property, and there is one. -/
def Clause.MadeOf (P : Test Name → Prop) (c : Clause) : Prop := c ≠ [] ∧ ∀ o ∈ c, o.MadeOf P

theorem Operand.MadeOf.toFormula {o : Operand} (h : o.MadeOf P) : o.toFormula.MadeOf P := by
  cases o with
  | tag t => exact .tag t
  | test t => exact .test h
  | any fs =>
      rw [Operand.toFormula, Formula.ofTagFreeAll_eq]
      exact .any (by simpa using h.1) (List.forall_mem_map.2 fun f hf => (h.2 f hf).ofTagFree)
  | not f => exact .not h

theorem Clause.MadeOf.toFormula {c : Clause} (h : c.MadeOf P) : c.toFormula.MadeOf P := by
  have operands : ∀ f ∈ c.map Operand.toFormula, f.MadeOf P :=
    List.forall_mem_map.2 fun o ho => (h.2 o ho).toFormula
  unfold Clause.toFormula
  split
  next f hf => exact operands f (by simp [hf])
  next => exact .all (by simpa using h.1) operands

namespace Formula

theorem madeOf_ofClauses {cs : List Clause} (hne : cs ≠ []) (h : ∀ c ∈ cs, c.MadeOf P) :
    (ofClauses cs).MadeOf P := by
  have branches : ∀ f ∈ cs.map Clause.toFormula, f.MadeOf P :=
    List.forall_mem_map.2 fun c hc => (h c hc).toFormula
  unfold ofClauses
  split
  next f hf => exact branches f (by simp [hf])
  next => exact .any (by simpa using hne) branches

/-- Clauses that are made of tests with a property, of which there is one. -/
def ClausesMadeOf (P : Test Name → Prop) (cs : List Clause) : Prop :=
  cs ≠ [] ∧ ∀ c ∈ cs, c.MadeOf P

theorem ClausesMadeOf.choices {f : Formula Name} (hf : f.MadeOf P)
    (h : ClausesMadeOf P (clauses f)) : ClausesMadeOf P (choices f) := by
  rcases choices_cases f with hc | ⟨fs, gs, rfl, hgs, hc⟩
  · rwa [hc]
  · rw [hc]
    cases hf with
    | any hne hfs =>
        have made := madeOf_list_of_tagFreeAll? hgs hne fun f hf g => (hfs f hf).tagFree?
        exact ⟨by simp, by simpa [Clause.MadeOf, Operand.MadeOf] using made⟩

theorem ClausesMadeOf.joined {as bs : List Clause} (ha : ClausesMadeOf P as)
    (hb : ClausesMadeOf P bs) : ClausesMadeOf P (joined as bs) := by
  obtain ⟨x, hx⟩ := List.exists_mem_of_ne_nil _ ha.1
  obtain ⟨y, hy⟩ := List.exists_mem_of_ne_nil _ hb.1
  refine ⟨List.ne_nil_of_mem (mem_joined.2 ⟨x, hx, y, hy, rfl⟩), ?_⟩
  intro c hc
  obtain ⟨a, hac, b, hbc, rfl⟩ := mem_joined.1 hc
  exact ⟨by simp [(ha.2 a hac).1],
    List.forall_mem_append.2 ⟨(ha.2 a hac).2, (hb.2 b hbc).2⟩⟩

/-- **Clauses are made of what their formula is made of.** -/
theorem madeOf_clauses {f : Formula Name} (h : f.MadeOf P) : ClausesMadeOf P (clauses f) := by
  induction h with
  | tag t => simp [clauses, ClausesMadeOf, Clause.MadeOf, Operand.MadeOf]
  | test h => simpa [clauses, ClausesMadeOf, Clause.MadeOf, Operand.MadeOf] using h
  | @all fs hne hfs ih =>
      rw [clauses]
      induction fs with
      | nil => exact absurd rfl hne
      | cons f fs more =>
          obtain ⟨hf, hfs⟩ := List.forall_mem_cons.1 hfs
          obtain ⟨ihf, ihfs⟩ := List.forall_mem_cons.1 ih
          rw [clausesOfAll_cons]
          have first := ClausesMadeOf.choices hf ihf
          cases fs with
          | nil => simpa [clausesOfAll, Formula.joined] using first
          | cons g gs => exact first.joined (more (by simp) hfs ihfs)
  | @any fs hne hfs ih =>
      rw [clauses]
      induction fs with
      | nil => exact absurd rfl hne
      | cons f fs more =>
          obtain ⟨hf, hfs⟩ := List.forall_mem_cons.1 hfs
          obtain ⟨ihf, ihfs⟩ := List.forall_mem_cons.1 ih
          rw [clausesOfAny]
          cases fs with
          | nil => simpa [clausesOfAny] using ihf
          | cons g gs =>
              have others := more (by simp) hfs ihfs
              exact ⟨by simp [ihf.1], List.forall_mem_append.2 ⟨ihf.2, others.2⟩⟩
  | not _ ih =>
      have made := madeOf_ofClauses ih.1 ih.2
      simpa [clauses, ClausesMadeOf, Clause.MadeOf, Operand.MadeOf] using made

end Formula

end

/-! ### Filters -/

namespace XPath

/-- All tests of a filter have a property, and none of its conjunctions and disjunctions is
empty. -/
inductive Filter.MadeOf (P : Subject Name → Comparison → Operand → Prop) : Filter → Prop
  | test {s : Subject Name} {c : Comparison} {o : Operand} (h : P s c o) : MadeOf P (.test s c o)
  | all {fs : List Filter} (hne : fs ≠ []) (h : ∀ f ∈ fs, MadeOf P f) : MadeOf P (.all fs)
  | any {fs : List Filter} (hne : fs ≠ []) (h : ∀ f ∈ fs, MadeOf P f) : MadeOf P (.any fs)
  | not {f : Filter} (h : MadeOf P f) : MadeOf P (.not f)

theorem Filter.MadeOf.mono {P Q : Subject Name → Comparison → Operand → Prop} {f : Filter}
    (h : f.MadeOf P) (hPQ : ∀ s c o, P s c o → Q s c o) : f.MadeOf Q := by
  induction h with
  | test h => exact .test (hPQ _ _ _ h)
  | all hne _ ih => exact .all hne ih
  | any hne _ ih => exact .any hne ih
  | not _ ih => exact .not ih

/-- The subject, the comparison and the operand are those of a test with a property. -/
def Writes (P : Test Name → Prop) (s : Subject Name) (c : Comparison) (o : Operand) : Prop :=
  ∃ t, P t ∧ s = t.subject ∧ c = t.relation ∧ o = .ofValue t.value.toList

namespace Filter

theorem madeOf_ofTest {P : Test Name → Prop} {t : Test Name} (h : P t) :
    (ofTest t).MadeOf (Writes P) := by
  cases t <;> exact .test ⟨_, h, rfl, rfl, rfl⟩

theorem ofFormulas_eq (fs : List (Formula Empty)) : ofFormulas fs = fs.map ofFormula := by
  induction fs with
  | nil => rfl
  | cons f fs ih => rw [ofFormulas, ih, List.map_cons]

theorem madeOf_ofFormula {P : Test Name → Prop} {f : Formula Empty} (h : f.MadeOf P) :
    (ofFormula f).MadeOf (Writes P) := by
  induction h with
  | tag t => exact nomatch t
  | test h => exact madeOf_ofTest h
  | all hne _ ih =>
      rw [ofFormula, ofFormulas_eq]
      exact .all (by simpa using hne) (List.forall_mem_map.2 ih)
  | any hne _ ih =>
      rw [ofFormula, ofFormulas_eq]
      exact .any (by simpa using hne) (List.forall_mem_map.2 ih)
  | not _ ih => exact .not ih

variable {Q : Subject Name → Comparison → Operand → Prop}

theorem madeOf_conj {fs : List Filter} (hne : fs ≠ []) (h : ∀ f ∈ fs, f.MadeOf Q) :
    (conj fs).MadeOf Q := by
  unfold conj
  split
  · exact h _ (by simp)
  · exact .all hne h

theorem madeOf_disj {fs : List Filter} (hne : fs ≠ []) (h : ∀ f ∈ fs, f.MadeOf Q) :
    (disj fs).MadeOf Q := by
  unfold disj
  split
  · exact h _ (by simp)
  · exact .any hne h

end Filter

end XPath

/-! ### Selectors -/

section

variable {P : Test Name → Prop}

namespace Conjunction

/-- What operands leave behind: filters that are made of tests with a property, as many tests of
attributes as filters where there are only such, and a tag where there are no filters. -/
structure MadeOf (P : Test Name → Prop) (c : Conjunction) : Prop where
  /-- The filters are made of such tests. -/
  filters : ∀ f ∈ c.filters, f.MadeOf (XPath.Writes P)
  /-- Every filter is a test of an attribute, if any is one. -/
  attributes : ∀ as, c.attributes = some as → as.length = c.filters.length
  /-- Something is asked. -/
  asks : c.filters = [] → c.tag ≠ none

/-- Adding an operand adds a filter or fixes a tag. -/
theorem madeOf_of_add {c d : Conjunction} {o : Operand} (h : c.add o = .ok d)
    (filters : ∀ f ∈ c.filters, f.MadeOf (XPath.Writes P))
    (attributes : ∀ as, c.attributes = some as → as.length = c.filters.length)
    (ho : o.MadeOf P) : d.MadeOf P := by
  cases o with
  | tag t =>
      simp only [add] at h
      split at h
      · cases h
        exact ⟨filters, attributes, by simp⟩
      next s hs =>
        split at h
        · cases h
          exact ⟨filters, attributes, by simp [hs]⟩
        · cases h
  | test t =>
      cases h
      refine ⟨List.forall_mem_append.2 ⟨filters, ?_⟩, ?_, by simp⟩
      · simpa using XPath.Filter.madeOf_ofTest ho
      · intro as has
        dsimp only at has ⊢
        split at has
        next bs b hbs hb =>
          cases has
          simp [attributes bs hbs]
        next => cases has
  | any fs =>
      cases h
      have branches : ∀ f ∈ fs.map XPath.Filter.ofFormula, f.MadeOf (XPath.Writes P) :=
        List.forall_mem_map.2 fun f hf => XPath.Filter.madeOf_ofFormula (ho.2 f hf)
      have added := XPath.Filter.MadeOf.any (by simpa using ho.1) branches
      rw [XPath.Filter.ofFormulas_eq]
      exact ⟨List.forall_mem_append.2 ⟨filters, by simpa using added⟩, by simp, by simp⟩
  | not f =>
      simp only [add] at h
      split at h
      next g hg =>
        cases h
        have added := XPath.Filter.MadeOf.not (XPath.Filter.madeOf_ofFormula (ho.tagFree? hg))
        exact ⟨List.forall_mem_append.2 ⟨filters, by simpa using added⟩, by simp, by simp⟩
      · cases h

theorem MadeOf.addAll {os : List Operand} {c d : Conjunction} (hc : c.MadeOf P)
    (h : c.addAll os = .ok d) (hos : ∀ o ∈ os, o.MadeOf P) : d.MadeOf P := by
  induction os generalizing c with
  | nil =>
      cases h
      exact hc
  | cons o os ih =>
      obtain ⟨c', hc', h⟩ := Except.bind_eq_ok_iff.1 h
      obtain ⟨ho, hos⟩ := List.forall_mem_cons.1 hos
      exact ih (madeOf_of_add hc' hc.filters hc.attributes ho) h hos

theorem madeOf_of_ofClause {c : Clause} {d : Conjunction} (h : ofClause c = .ok d)
    (hc : c.MadeOf P) : d.MadeOf P := by
  obtain ⟨hne, hc⟩ := hc
  cases c with
  | nil => exact absurd rfl hne
  | cons o os =>
      obtain ⟨c', hc', h⟩ := Except.bind_eq_ok_iff.1 h
      obtain ⟨ho, hos⟩ := List.forall_mem_cons.1 hc
      exact (madeOf_of_add hc' (by simp [empty]) (by simp [empty]) ho).addAll h hos

theorem MadeOf.path {c : Conjunction} (hc : c.MadeOf P) :
    ∀ f ∈ c.path.filters, f.MadeOf (XPath.Writes P) := by
  unfold Conjunction.path
  split
  · exact hc.filters
  next ht => simpa using XPath.Filter.madeOf_conj (fun he => hc.asks he ht) hc.filters

end Conjunction

theorem madeOf_of_conjunctions {cs : List Clause} {ds : List Conjunction}
    (h : conjunctions cs = .ok ds) (hcs : ∀ c ∈ cs, c.MadeOf P) :
    ds.length = cs.length ∧ ∀ d ∈ ds, d.MadeOf P := by
  induction cs generalizing ds with
  | nil =>
      cases h
      simp
  | cons c cs ih =>
      obtain ⟨d, hd, h⟩ := Except.bind_eq_ok_iff.1 h
      obtain ⟨ds, hds, h⟩ := Except.bind_eq_ok_iff.1 h
      cases h
      obtain ⟨hc, hcs⟩ := List.forall_mem_cons.1 hcs
      obtain ⟨length, made⟩ := ih hds hcs
      exact ⟨by simp [length],
        List.forall_mem_cons.2 ⟨Conjunction.madeOf_of_ofClause hd hc, made⟩⟩

namespace Selector

/-- The filters of a selector are made of tests with a property, and no part of it is empty. -/
def MadeOf (P : Test Name → Prop) : Selector → Prop
  | .css selectors => selectors ≠ [] ∧ ∀ c ∈ selectors, c.tag = none → c.attributes ≠ []
  | .xpath paths => paths ≠ [] ∧ ∀ p ∈ paths, ∀ f ∈ p.filters, f.MadeOf (XPath.Writes P)
  | _ => True

theorem madeOf_xpathOf {ds : List Conjunction} (hne : ds ≠ []) (hds : ∀ d ∈ ds, d.MadeOf P) :
    (xpathOf ds).MadeOf P := by
  unfold xpathOf
  split
  next untagged =>
    have filters : ∀ f ∈ ds.map fun d => XPath.Filter.conj d.filters,
        f.MadeOf (XPath.Writes P) := by
      refine List.forall_mem_map.2 fun d hd => ?_
      have tag : d.tag = none := by simpa using List.all_eq_true.1 untagged d hd
      exact XPath.Filter.madeOf_conj (fun he => (hds d hd).asks he tag) (hds d hd).filters
    exact ⟨by simp, by simpa using XPath.Filter.madeOf_disj (by simpa using hne) filters⟩
  next => exact ⟨by simpa using hne, List.forall_mem_map.2 fun d hd => (hds d hd).path⟩

theorem madeOf_of_compounds? {ds : List Conjunction} {cs : List Css.Compound}
    (h : compounds? ds = some cs) (hds : ∀ d ∈ ds, d.MadeOf P) :
    cs.length = ds.length ∧ ∀ c ∈ cs, c.tag = none → c.attributes ≠ [] := by
  induction ds generalizing cs with
  | nil =>
      cases h
      simp
  | cons d ds ih =>
      rw [compounds?] at h
      split at h
      next c more hc hmore =>
        cases h
        obtain ⟨as, has, rfl⟩ := Option.map_eq_some_iff.1 hc
        obtain ⟨hd, hds⟩ := List.forall_mem_cons.1 hds
        obtain ⟨length, asks⟩ := ih hmore hds
        refine ⟨by simp [length], List.forall_mem_cons.2 ⟨?_, asks⟩⟩
        rintro tag rfl
        exact hd.asks (List.length_eq_zero_iff.1 (hd.attributes [] has).symm) tag
      next => cases h

theorem madeOf_ofConjunctions {ds : List Conjunction} (hne : ds ≠ [])
    (hds : ∀ d ∈ ds, d.MadeOf P) : (ofConjunctions ds).MadeOf P := by
  unfold ofConjunctions
  split
  next cs hcs =>
    split
    · obtain ⟨length, asks⟩ := madeOf_of_compounds? hcs hds
      refine ⟨?_, asks⟩
      rintro rfl
      exact hne (List.length_eq_zero_iff.1 length.symm)
    · exact madeOf_xpathOf hne hds
  next => exact madeOf_xpathOf hne hds

end Selector

end

/-- **A selector is made of the leaves of its expression.** -/
theorem Expression.madeOf_of_selector {e : Expression} {s : Selector} (h : e.selector = .ok s) :
    s.MadeOf (Formula.IsLeaf e.leaves) := by
  rcases selector_cases h with ⟨_, _, -, rfl⟩ | ⟨_, _, -, -, rfl⟩ | ⟨f, hf, h⟩
  · trivial
  · trivial
  · obtain ⟨ds, hds, h⟩ := Except.bind_eq_ok_iff.1 h
    cases h
    obtain ⟨hne, made⟩ := Formula.madeOf_clauses (Formula.madeOf_of_ofExpression? hf)
    obtain ⟨length, made⟩ := madeOf_of_conjunctions hds made
    refine Selector.madeOf_ofConjunctions ?_ made
    rintro rfl
    exact hne (List.length_eq_zero_iff.1 length.symm)

end WebDriverClient.Locator
