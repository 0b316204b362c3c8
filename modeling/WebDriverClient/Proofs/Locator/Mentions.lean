/-
**The leaves in a selector.**

Compilation merges operators, distributes tags and writes some clauses as CSS, and none of this
loses a leaf: where the selector is XPath, every test among the leaves of the expression stands in a
filter of it.  Together with the lemmas on what a selector is made of this says that the tests of
the one are those of the other.

Main definitions:

* `Locator.Formula.Mentions`, `Locator.XPath.Filter.Mentions` — a test stands in a formula or a
  filter;
* `Locator.Formula.ClausesMention` — a test stands in an operand of a clause.

Main results:

* `Locator.Formula.mentions_of_ofExpression?` — a test stands in the formula and in its clauses;
* `Locator.Expression.mentions_of_selector` — **every test of an expression stands in a filter of
  its XPath selector**.
-/

import WebDriverClient.Proofs.Locator.Tests

set_option autoImplicit false

namespace WebDriverClient.Locator

/-! ### Formulas -/

namespace Formula

variable {τ : Type} {n : Test Name}

/-- The test stands in the formula. -/
inductive Mentions (n : Test Name) : Formula τ → Prop
  | test : Mentions n (.test n)
  | all {fs : List (Formula τ)} {f : Formula τ} (mem : f ∈ fs) (h : Mentions n f) :
      Mentions n (.all fs)
  | any {fs : List (Formula τ)} {f : Formula τ} (mem : f ∈ fs) (h : Mentions n f) :
      Mentions n (.any fs)
  | not {f : Formula τ} (h : Mentions n f) : Mentions n (.not f)

theorem Mentions.operands {f : Formula τ} (h : f.Mentions n) : ∃ g ∈ f.operands, g.Mentions n := by
  cases f with
  | all fs =>
      cases h with
      | all mem h => exact ⟨_, mem, h⟩
  | tag | test | any | not => exact ⟨_, List.mem_singleton_self _, h⟩

theorem Mentions.branches {f : Formula τ} (h : f.Mentions n) : ∃ g ∈ f.branches, g.Mentions n := by
  cases f with
  | any fs =>
      cases h with
      | any mem h => exact ⟨_, mem, h⟩
  | tag | test | all | not => exact ⟨_, List.mem_singleton_self _, h⟩

/-- In place of a formula of a list there is one without tags. -/
theorem exists_mem_of_tagFreeAll? {fs : List (Formula τ)} {gs : List (Formula Empty)}
    (h : tagFreeAll? fs = .ok gs) {f : Formula τ} (mem : f ∈ fs) :
    ∃ g ∈ gs, tagFree? f = .ok g := by
  have pairs := forall₂_of_tagFreeAll? h
  clear h
  induction pairs with
  | nil => cases mem
  | @cons a b _ _ hab _ ih =>
      rcases List.mem_cons.1 mem with rfl | mem
      · exact ⟨b, List.mem_cons_self, hab⟩
      · obtain ⟨g, hg, free⟩ := ih mem
        exact ⟨g, List.mem_cons_of_mem _ hg, free⟩

theorem Mentions.tagFree? {f : Formula τ} (hf : f.Mentions n) {g : Formula Empty}
    (h : f.tagFree? = .ok g) : g.Mentions n := by
  induction hf generalizing g with
  | test =>
      cases h
      exact .test
  | all mem _ ih =>
      obtain ⟨gs, hgs, h⟩ := Except.bind_eq_ok_iff.1 h
      cases h
      obtain ⟨g, hg, free⟩ := exists_mem_of_tagFreeAll? hgs mem
      exact .all hg (ih free)
  | any mem _ ih =>
      obtain ⟨gs, hgs, h⟩ := Except.bind_eq_ok_iff.1 h
      cases h
      obtain ⟨g, hg, free⟩ := exists_mem_of_tagFreeAll? hgs mem
      exact .any hg (ih free)
  | not _ ih =>
      obtain ⟨g, hg, h⟩ := Except.bind_eq_ok_iff.1 h
      cases h
      exact .not (ih hg)

theorem Mentions.ofTagFree {f : Formula Empty} (h : f.Mentions n) :
    (ofTagFree f : Formula τ).Mentions n := by
  induction h with
  | test => exact .test
  | all mem _ ih =>
      rw [Formula.ofTagFree, ofTagFreeAll_eq]
      exact .all (List.mem_map_of_mem mem) ih
  | any mem _ ih =>
      rw [Formula.ofTagFree, ofTagFreeAll_eq]
      exact .any (List.mem_map_of_mem mem) ih
  | not _ ih => exact .not ih

end Formula

/-! ### Clauses -/

section

variable {n : Test Name}

/-- The test stands in the operand. -/
def Operand.Mentions (n : Test Name) : Operand → Prop
  | .tag _ => False
  | .test t => t = n
  | .any fs => ∃ f ∈ fs, f.Mentions n
  | .not f => f.Mentions n

theorem Operand.Mentions.toFormula {o : Operand} (h : o.Mentions n) : o.toFormula.Mentions n := by
  cases o with
  | tag t => cases h
  | test t =>
      cases h
      exact .test
  | any fs =>
      obtain ⟨f, mem, h⟩ := h
      rw [Operand.toFormula, Formula.ofTagFreeAll_eq]
      exact .any (List.mem_map_of_mem mem) h.ofTagFree
  | not f => exact .not h

namespace Formula

/-- The test stands in an operand of a clause. -/
def ClausesMention (n : Test Name) (cs : List Clause) : Prop := ∃ c ∈ cs, ∃ o ∈ c, o.Mentions n

theorem mentions_clause_toFormula {c : Clause} {o : Operand} (mem : o ∈ c) (h : o.Mentions n) :
    c.toFormula.Mentions n := by
  have member := List.mem_map_of_mem (f := Operand.toFormula) mem
  unfold Clause.toFormula
  split
  next f hf =>
    rw [hf, List.mem_singleton] at member
    exact member ▸ h.toFormula
  next => exact .all member h.toFormula

theorem ClausesMention.ofClauses {cs : List Clause} (h : ClausesMention n cs) :
    (ofClauses cs).Mentions n := by
  obtain ⟨c, hc, o, ho, h⟩ := h
  have member := List.mem_map_of_mem (f := Clause.toFormula) hc
  have clause := mentions_clause_toFormula ho h
  unfold Formula.ofClauses
  split
  next f hf =>
    rw [hf, List.mem_singleton] at member
    exact member ▸ clause
  next => exact .any member clause

theorem ClausesMention.choices {f : Formula Name} (hf : f.Mentions n)
    (h : ClausesMention n (clauses f)) : ClausesMention n (choices f) := by
  rcases choices_cases f with hc | ⟨fs, gs, rfl, hgs, hc⟩
  · rwa [hc]
  · rw [hc]
    cases hf with
    | any mem hf =>
        obtain ⟨g, hg, free⟩ := exists_mem_of_tagFreeAll? hgs mem
        exact ⟨_, List.mem_singleton_self _, _, List.mem_singleton_self _, g, hg, hf.tagFree? free⟩

theorem ClausesMention.joined_left {as bs : List Clause} (h : ClausesMention n as)
    (hb : bs ≠ []) : ClausesMention n (joined as bs) := by
  obtain ⟨a, ha, o, ho, h⟩ := h
  obtain ⟨b, hb⟩ := List.exists_mem_of_ne_nil _ hb
  exact ⟨a ++ b, mem_joined.2 ⟨a, ha, b, hb, rfl⟩, o, List.mem_append_left b ho, h⟩

theorem ClausesMention.joined_right {as bs : List Clause} (h : ClausesMention n bs)
    (ha : as ≠ []) : ClausesMention n (joined as bs) := by
  obtain ⟨b, hb, o, ho, h⟩ := h
  obtain ⟨a, ha⟩ := List.exists_mem_of_ne_nil _ ha
  exact ⟨a ++ b, mem_joined.2 ⟨a, ha, b, hb, rfl⟩, o, List.mem_append_right a ho, h⟩

/-- **A leaf stands in the formula of its expression and in the clauses of the formula.** -/
theorem mentions_of_ofExpression? {e : Expression} {f : Formula Name}
    (h : ofExpression? e = .ok f) {t : Test String} (leaf : .test t ∈ e.leaves) :
    ∃ n, validTest t = .ok n ∧ f.Mentions n ∧ ClausesMention n (clauses f) := by
  induction e generalizing f with
  | leaf c =>
      obtain rfl := List.mem_singleton.1 leaf
      rcases ofExpression?_leaf.1 h with ⟨t', n, same, hn, rfl⟩ | ⟨t', n, other, -, -⟩
      · cases same
        exact ⟨n, hn, .test, _, List.mem_singleton_self _, _, List.mem_singleton_self _, rfl⟩
      · cases other
  | and l r ihl ihr =>
      obtain ⟨a, b, ha, hb, rfl⟩ := ofExpression?_and.1 h
      rw [clauses_and]
      -- A join keeps the clauses of one side only if the other has one to join them with.
      rcases List.mem_append.1 leaf with leaf | leaf
      · obtain ⟨n, hn, mentions, clauses⟩ := ihl ha leaf
        obtain ⟨g, hg, inner⟩ := mentions.operands
        exact ⟨n, hn, .all (List.mem_append_left _ hg) inner,
          (clauses.choices mentions).joined_left (choices_ne_nil hb)⟩
      · obtain ⟨n, hn, mentions, clauses⟩ := ihr hb leaf
        obtain ⟨g, hg, inner⟩ := mentions.operands
        exact ⟨n, hn, .all (List.mem_append_right _ hg) inner,
          (clauses.choices mentions).joined_right (choices_ne_nil ha)⟩
  | or l r ihl ihr =>
      obtain ⟨a, b, ha, hb, rfl⟩ := ofExpression?_or.1 h
      rw [clauses_or]
      rcases List.mem_append.1 leaf with leaf | leaf
      · obtain ⟨n, hn, mentions, c, hc, clause⟩ := ihl ha leaf
        obtain ⟨g, hg, inner⟩ := mentions.branches
        exact ⟨n, hn, .any (List.mem_append_left _ hg) inner, c, List.mem_append_left _ hc, clause⟩
      · obtain ⟨n, hn, mentions, c, hc, clause⟩ := ihr hb leaf
        obtain ⟨g, hg, inner⟩ := mentions.branches
        exact ⟨n, hn, .any (List.mem_append_right _ hg) inner, c, List.mem_append_right _ hc,
          clause⟩
  | not e ih =>
      obtain ⟨a, ha, rfl⟩ := ofExpression?_not.1 h
      obtain ⟨n, hn, mentions, clauses⟩ := ih ha leaf
      exact ⟨n, hn, .not mentions, _, List.mem_singleton_self _, _, List.mem_singleton_self _,
        clauses.ofClauses⟩

end Formula

end

/-! ### Filters -/

namespace XPath.Filter

variable {n : Test Name}

/-- The test stands in the filter. -/
inductive Mentions (n : Test Name) : Filter → Prop
  | test : Mentions n (.test n.subject n.relation (.ofValue n.value.toList))
  | all {fs : List Filter} {f : Filter} (mem : f ∈ fs) (h : Mentions n f) : Mentions n (.all fs)
  | any {fs : List Filter} {f : Filter} (mem : f ∈ fs) (h : Mentions n f) : Mentions n (.any fs)
  | not {f : Filter} (h : Mentions n f) : Mentions n (.not f)

theorem mentions_ofTest (n : Test Name) : (ofTest n).Mentions n := by
  cases n <;> exact .test

theorem mentions_ofFormula {f : Formula Empty} (h : f.Mentions n) : (ofFormula f).Mentions n := by
  induction h with
  | test => exact mentions_ofTest n
  | all mem _ ih =>
      rw [ofFormula, ofFormulas_eq]
      exact .all (List.mem_map_of_mem mem) ih
  | any mem _ ih =>
      rw [ofFormula, ofFormulas_eq]
      exact .any (List.mem_map_of_mem mem) ih
  | not _ ih => exact .not ih

theorem mentions_conj {fs : List Filter} {f : Filter} (mem : f ∈ fs) (h : f.Mentions n) :
    (conj fs).Mentions n := by
  unfold conj
  split
  next g =>
    rw [List.mem_singleton] at mem
    exact mem ▸ h
  next => exact .all mem h

theorem mentions_disj {fs : List Filter} {f : Filter} (mem : f ∈ fs) (h : f.Mentions n) :
    (disj fs).Mentions n := by
  unfold disj
  split
  next g =>
    rw [List.mem_singleton] at mem
    exact mem ▸ h
  next => exact .any mem h

end XPath.Filter

/-! ### Selectors -/

section

variable {n : Test Name}

namespace Conjunction

/-- Adding an operand keeps the filters, and may add one in which its tests stand. -/
theorem filters_of_add {c d : Conjunction} {o : Operand} (h : c.add o = .ok d) :
    c.filters ⊆ d.filters ∧ (o.Mentions n → ∃ f ∈ d.filters, f.Mentions n) := by
  cases o with
  | tag t =>
      simp only [add] at h
      split at h
      · cases h
        exact ⟨List.Subset.refl _, False.elim⟩
      · split at h
        · cases h
          exact ⟨List.Subset.refl _, False.elim⟩
        · cases h
  | test t =>
      cases h
      refine ⟨List.subset_append_left _ _, ?_⟩
      rintro rfl
      exact ⟨_, List.mem_append_right _ (List.mem_singleton_self _),
        XPath.Filter.mentions_ofTest t⟩
  | any fs =>
      cases h
      refine ⟨List.subset_append_left _ _, ?_⟩
      rintro ⟨f, mem, h⟩
      refine ⟨_, List.mem_append_right _ (List.mem_singleton_self _), ?_⟩
      rw [XPath.Filter.ofFormulas_eq]
      exact .any (List.mem_map_of_mem mem) (XPath.Filter.mentions_ofFormula h)
  | not f =>
      simp only [add] at h
      split at h
      next g hg =>
        cases h
        refine ⟨List.subset_append_left _ _, fun h => ?_⟩
        exact ⟨_, List.mem_append_right _ (List.mem_singleton_self _),
          .not (XPath.Filter.mentions_ofFormula (h.tagFree? hg))⟩
      · cases h

theorem filters_of_addAll {os : List Operand} {c d : Conjunction} (h : c.addAll os = .ok d) :
    c.filters ⊆ d.filters ∧ ∀ o ∈ os, o.Mentions n → ∃ f ∈ d.filters, f.Mentions n := by
  induction os generalizing c with
  | nil =>
      cases h
      exact ⟨List.Subset.refl _, fun _ h => nomatch h⟩
  | cons o os ih =>
      obtain ⟨c', hc', h⟩ := Except.bind_eq_ok_iff.1 h
      obtain ⟨kept, added⟩ := filters_of_add (n := n) hc'
      obtain ⟨kept', added'⟩ := ih h
      refine ⟨List.Subset.trans kept kept', List.forall_mem_cons.2 ⟨fun mentions => ?_, added'⟩⟩
      obtain ⟨f, hf, mentions⟩ := added mentions
      exact ⟨f, kept' hf, mentions⟩

theorem mentions_path {c : Conjunction} {f : XPath.Filter} (mem : f ∈ c.filters)
    (h : f.Mentions n) : ∃ g ∈ c.path.filters, g.Mentions n := by
  unfold Conjunction.path
  split
  · exact ⟨f, mem, h⟩
  · exact ⟨_, List.mem_singleton_self _, XPath.Filter.mentions_conj mem h⟩

end Conjunction

theorem exists_mem_of_conjunctions {cs : List Clause} {ds : List Conjunction}
    (h : conjunctions cs = .ok ds) {c : Clause} (mem : c ∈ cs) :
    ∃ d ∈ ds, Conjunction.ofClause c = .ok d := by
  induction cs generalizing ds with
  | nil => cases mem
  | cons c' cs ih =>
      obtain ⟨d, hd, h⟩ := Except.bind_eq_ok_iff.1 h
      obtain ⟨ds, hds, h⟩ := Except.bind_eq_ok_iff.1 h
      cases h
      rcases List.mem_cons.1 mem with rfl | mem
      · exact ⟨d, List.mem_cons_self, hd⟩
      · obtain ⟨d', hd', hc⟩ := ih hds mem
        exact ⟨d', List.mem_cons_of_mem _ hd', hc⟩

/-- A test in a filter of a clause stands in a filter of the selector, if that is XPath. -/
theorem Selector.mentions_ofConjunctions {ds : List Conjunction} {paths : List XPath.Path}
    (h : ofConjunctions ds = .xpath paths) {d : Conjunction} (mem : d ∈ ds) {f : XPath.Filter}
    (hf : f ∈ d.filters) (mentions : f.Mentions n) :
    ∃ p ∈ paths, ∃ g ∈ p.filters, g.Mentions n := by
  have xpath : xpathOf ds = .xpath paths := by
    unfold ofConjunctions at h
    split at h
    · split at h
      · cases h
      · exact h
    · exact h
  unfold xpathOf at xpath
  split at xpath
  · cases xpath
    have member := List.mem_map_of_mem (f := fun c : Conjunction => XPath.Filter.conj c.filters) mem
    exact ⟨_, List.mem_singleton_self _, _, List.mem_singleton_self _,
      XPath.Filter.mentions_disj member (XPath.Filter.mentions_conj hf mentions)⟩
  · cases xpath
    exact ⟨d.path, List.mem_map_of_mem mem, Conjunction.mentions_path hf mentions⟩

end

/-- **Every test of an expression stands in a filter of its XPath selector.** -/
theorem Expression.mentions_of_selector {e : Expression} {paths : List XPath.Path}
    (h : e.selector = .ok (.xpath paths)) {t : Test String} (leaf : .test t ∈ e.leaves) :
    ∃ n, Formula.validTest t = .ok n ∧ ∃ p ∈ paths, ∃ f ∈ p.filters, f.Mentions n := by
  rcases selector_cases h with ⟨_, _, -, other⟩ | ⟨_, _, -, -, other⟩ | ⟨f, hf, h⟩
  · cases other
  · cases other
  · obtain ⟨ds, hds, h⟩ := Except.bind_eq_ok_iff.1 h
    have selector := Except.ok.inj h
    obtain ⟨n, hn, -, c, hc, o, ho, mentions⟩ := Formula.mentions_of_ofExpression? hf leaf
    obtain ⟨d, hd, clause⟩ := exists_mem_of_conjunctions hds hc
    obtain ⟨g, hg, mentions⟩ := (Conjunction.filters_of_addAll clause).2 o ho mentions
    exact ⟨n, hn, Selector.mentions_ofConjunctions selector hd hg mentions⟩

end WebDriverClient.Locator
