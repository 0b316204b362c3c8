/-
**Which expressions have a query.**

An expression is refused for one of four reasons: it combines the text of a link with something, a
name in it may not stand in a selector, a tag stands below a negation, or two different tags are
asked of one element.  The first two are seen on the leaves.  The last is said here without the
compiler: the tag sets of an expression are the sets of tags that one choice of a branch at every
disjunction leaves, and none of them may have two tags.

Main definitions:

* `Locator.NameText` — the texts that may stand in a selector;
* `Locator.Expression.tagSets` — the tag sets of an expression;
* `Locator.Expression.NegatesTag` — a tag stands below a negation;
* `Locator.Expression.WellFormed` — an expression with none of the four faults.

Main results:

* `Locator.Conjunction.exists_addAll_iff` — when operands can be put together;
* `Locator.Formula.mem_tagSets_iff` — the tag sets are the tags that the clauses fix;
* `Locator.Formula.permitted_iff` — the negations in the clauses are those of the expression;
* `Locator.Expression.exists_compile_iff` — **exactly the well-formed expressions and the lone link
  texts have a query**.
-/

import Mathlib.Data.Finset.NAry
import WebDriverClient.Proofs.Locator.Clauses

set_option autoImplicit false

namespace WebDriverClient.Locator

/-! ### Names -/

/-- A text that matches `[A-Za-z_][A-Za-z0-9_-]*`. -/
def NameText (s : String) : Prop :=
  ∃ first rest, s.toList = first :: rest ∧
    ('A' ≤ first ∧ first ≤ 'Z' ∨ 'a' ≤ first ∧ first ≤ 'z' ∨ first = '_') ∧
    ∀ c ∈ rest, 'A' ≤ c ∧ c ≤ 'Z' ∨ 'a' ≤ c ∧ c ≤ 'z' ∨ '0' ≤ c ∧ c ≤ '9' ∨ c = '_' ∨ c = '-'

theorem isNameChar_iff (c : Char) :
    isNameChar c = true ↔
      'A' ≤ c ∧ c ≤ 'Z' ∨ 'a' ≤ c ∧ c ≤ 'z' ∨ '0' ≤ c ∧ c ≤ '9' ∨ c = '_' ∨ c = '-' := by
  rw [isNameChar, Bool.or_eq_true, Bool.or_eq_true, isNameStart_iff, isDigit_iff, beq_iff_eq]
  tauto

/-- The names of the library are the texts that may stand in a selector. -/
theorem exists_ofString?_iff (s : String) : (∃ n, Name.ofString? s = some n) ↔ NameText s := by
  have valid : (∃ n, Name.ofString? s = some n) ↔ isName s.toList = true := by
    unfold Name.ofString?
    split
    next h => simp [h]
    next h => simp [h]
  rw [valid, NameText]
  cases s.toList with
  | nil => simp [isName]
  | cons first rest =>
      simp only [isName, Bool.and_eq_true, isNameStart_iff, List.all_eq_true, isNameChar_iff]
      constructor
      · rintro ⟨h₁, h₂⟩
        exact ⟨first, rest, rfl, h₁, h₂⟩
      · rintro ⟨_, _, h, h₁, h₂⟩
        cases h
        exact ⟨h₁, h₂⟩

/-! ### Well-formed expressions -/

/-- The name of an attribute, a function or a tag in a condition. -/
def Condition.name? : Condition → Option String
  | .test (.attr name _ _) => some name
  | .test (.comparison (.attr name) _ _) => some name
  | .test (.comparison (.function name) _ _) => some name
  | .tag t => some t.text
  | .linkText _ _ => none

namespace Expression

/-- The expression is the text of a link and nothing else. -/
def LoneLinkText (e : Expression) : Prop := ∃ text part, e = .leaf (.linkText text part)

/-- A tag stands somewhere below a negation. -/
def NegatesTag : Expression → Prop
  | .leaf _ => False
  | .and l r => l.NegatesTag ∨ r.NegatesTag
  | .or l r => l.NegatesTag ∨ r.NegatesTag
  | .not e => e.tags ≠ []

/-- The sets of tags that are asked at once, one for each way to choose a branch of every
disjunction outside negations. -/
def tagSets : Expression → Finset (Finset TagName)
  | .leaf (.tag t) => {{t}}
  | .leaf _ => {∅}
  | .and l r => Finset.image₂ (· ∪ ·) l.tagSets r.tagSets
  | .or l r => l.tagSets ∪ r.tagSets
  | .not _ => {∅}

/-- An expression that can be compiled as a combination of conditions. -/
structure WellFormed (e : Expression) : Prop where
  /-- No text of a link is combined with anything. -/
  no_linkText : ∀ text part, .linkText text part ∉ e.leaves
  /-- Every name may stand in a selector. -/
  names : ∀ c ∈ e.leaves, ∀ n, c.name? = some n → NameText n
  /-- No tag is negated. -/
  no_negated_tag : ¬ e.NegatesTag
  /-- No two tags are asked of one element. -/
  one_tag : ∀ s ∈ e.tagSets, ∀ t ∈ s, ∀ u ∈ s, t = u

/-- Where a tag is negated, there is one. -/
theorem tags_ne_nil_of_negatesTag {e : Expression} (h : e.NegatesTag) : e.tags ≠ [] := by
  induction e with
  | leaf c => exact h.elim
  | and l r ihl ihr => rcases h with h | h <;> simp_all
  | or l r ihl ihr => rcases h with h | h <;> simp_all
  | not e ih => exact h

end Expression

/-! ### Leaves -/

namespace Formula

theorem exists_validName_iff (kind : NameKind) (s : String) :
    (∃ n, validName kind s = .ok n) ↔ NameText s := by
  simp only [validName_eq_ok, exists_ofString?_iff]

theorem exists_validTest_iff (t : Test String) :
    (∃ n, validTest t = .ok n) ↔ ∀ n, (Condition.test t).name? = some n → NameText n := by
  rcases t with ⟨name, _, _⟩ | ⟨name | name, _, _⟩
  all_goals
    simp only [validTest, Except.bind_eq_ok_iff, Except.pure_eq, Except.ok.injEq, Condition.name?,
      Option.some.injEq, forall_eq']
    rw [← exists_validName_iff]
    constructor
    · rintro ⟨_, n, hn, -⟩
      exact ⟨n, hn⟩
    · rintro ⟨n, hn⟩
      exact ⟨_, n, hn, rfl⟩

/-- An expression has a formula unless a leaf of it is a link text or has a name that may not stand
in a selector. -/
theorem exists_ofExpression?_iff (e : Expression) :
    (∃ f, ofExpression? e = .ok f) ↔
      (∀ text part, .linkText text part ∉ e.leaves) ∧
        ∀ c ∈ e.leaves, ∀ n, c.name? = some n → NameText n := by
  induction e with
  | leaf c =>
      cases c with
      | test t => simp [ofExpression?_leaf, Expression.leaves, ← exists_validTest_iff]
      | tag t => simp [ofExpression?_leaf, Expression.leaves, Condition.name?, exists_validName_iff]
      | linkText text part => simp [ofExpression?_leaf, Expression.leaves]
  | and l r ihl ihr =>
      have both : (∃ f, ofExpression? (.and l r) = .ok f) ↔
          (∃ f, ofExpression? l = .ok f) ∧ ∃ f, ofExpression? r = .ok f := by
        simp only [ofExpression?_and]
        constructor
        · rintro ⟨_, a, b, ha, hb, -⟩
          exact ⟨⟨a, ha⟩, b, hb⟩
        · rintro ⟨⟨a, ha⟩, b, hb⟩
          exact ⟨_, a, b, ha, hb, rfl⟩
      rw [both, ihl, ihr]
      simp only [Expression.leaves, List.mem_append]
      grind
  | or l r ihl ihr =>
      have both : (∃ f, ofExpression? (.or l r) = .ok f) ↔
          (∃ f, ofExpression? l = .ok f) ∧ ∃ f, ofExpression? r = .ok f := by
        simp only [ofExpression?_or]
        constructor
        · rintro ⟨_, a, b, ha, hb, -⟩
          exact ⟨⟨a, ha⟩, b, hb⟩
        · rintro ⟨⟨a, ha⟩, b, hb⟩
          exact ⟨_, a, b, ha, hb, rfl⟩
      rw [both, ihl, ihr]
      simp only [Expression.leaves, List.mem_append]
      grind
  | not e ih =>
      rw [show Expression.leaves (.not e) = e.leaves from rfl, ← ih]
      simp only [ofExpression?_not]
      constructor
      · rintro ⟨_, a, ha, -⟩
        exact ⟨a, ha⟩
      · rintro ⟨a, ha⟩
        exact ⟨_, a, ha, rfl⟩

end Formula

/-! ### Operands that can be put together -/

/-- An operand is no negation, or negates a formula without tags. -/
def Operand.Permitted : Operand → Prop
  | .not f => f.tags = []
  | _ => True

@[simp] theorem Operand.permitted_tag (t : Name) : (Operand.tag t).Permitted := trivial

@[simp] theorem Operand.permitted_test (t : Test Name) : (Operand.test t).Permitted := trivial

@[simp] theorem Operand.permitted_any (fs : List (Formula Empty)) : (Operand.any fs).Permitted :=
  trivial

/-- All names of a list are the same. -/
def Uniform (ts : List Name) : Prop := ∀ s ∈ ts, ∀ t ∈ ts, s = t

theorem uniform_cons_cons_self (t : Name) (ts : List Name) :
    Uniform (t :: t :: ts) ↔ Uniform (t :: ts) := by simp [Uniform]

theorem not_uniform_cons_cons {s t : Name} (h : s ≠ t) (ts : List Name) :
    ¬ Uniform (s :: t :: ts) := fun u => h (u s (by simp) t (by simp))

namespace Conjunction

/-- **Operands can be put together exactly when they are permitted and fix at most one tag.** -/
theorem exists_addAll_iff (os : List Operand) (c : Conjunction) :
    (∃ d, c.addAll os = .ok d) ↔
      (∀ o ∈ os, o.Permitted) ∧ Uniform (c.tag.toList ++ Clause.fixed os) := by
  induction os generalizing c with
  | nil =>
      have single : Uniform (c.tag.toList ++ Clause.fixed []) := by
        cases c.tag <;> simp [Clause.fixed, Uniform]
      simp [addAll, single]
  | cons o os ih =>
      have step : (∃ d, c.addAll (o :: os) = .ok d) ↔ ∃ c', c.add o = .ok c' ∧
          ∃ d, c'.addAll os = .ok d := by
        simp only [addAll, Except.bind_eq_ok_iff]
        constructor
        · rintro ⟨d, c', h, hd⟩
          exact ⟨c', h, d, hd⟩
        · rintro ⟨c', h, d, hd⟩
          exact ⟨d, c', h, hd⟩
      rw [step]
      cases o with
      | tag t =>
          have fixed : Clause.fixed (.tag t :: os) = t :: Clause.fixed os := rfl
          cases hc : c.tag with
          | none => simp [add, hc, ih, fixed]
          | some s =>
              by_cases hst : s = t
              · subst hst
                simp [add, hc, ih, fixed, uniform_cons_cons_self]
              · simp [add, hc, fixed, hst, not_uniform_cons_cons]
      | test t =>
          have fixed : Clause.fixed (.test t :: os) = Clause.fixed os := rfl
          simp [add, ih, fixed]
      | any fs =>
          have fixed : Clause.fixed (.any fs :: os) = Clause.fixed os := rfl
          simp [add, ih, fixed]
      | not f =>
          have fixed : Clause.fixed (.not f :: os) = Clause.fixed os := rfl
          rw [fixed, List.forall_mem_cons, Operand.Permitted, ← Formula.exists_tagFree?_iff]
          cases hf : f.tagFree? with
          | ok g => simp [add, hf, ih]
          | error t => simp [add, hf]

theorem exists_ofClause_iff (c : Clause) :
    (∃ d, ofClause c = .ok d) ↔ (∀ o ∈ c, o.Permitted) ∧ Uniform c.fixed := by
  simpa [ofClause, empty] using exists_addAll_iff c empty

end Conjunction

theorem exists_conjunctions_iff (cs : List Clause) :
    (∃ ds, conjunctions cs = .ok ds) ↔ ∀ c ∈ cs, ∃ d, Conjunction.ofClause c = .ok d := by
  induction cs with
  | nil => simp [conjunctions]
  | cons c cs ih =>
      rw [List.forall_mem_cons, ← ih]
      simp only [conjunctions, Except.bind_eq_ok_iff, Except.pure_eq, Except.ok.injEq]
      constructor
      · rintro ⟨_, d, hd, ds, hds, -⟩
        exact ⟨⟨d, hd⟩, ds, hds⟩
      · rintro ⟨⟨d, hd⟩, ds, hds⟩
        exact ⟨_, d, hd, ds, hds, rfl⟩

/-! ### From clauses to the expression -/

/-- The set of tags that a clause fixes. -/
def Clause.tagSet (c : Clause) : Finset TagName :=
  (c.fixed.map fun t => TagName.mk t.text).toFinset

theorem Clause.tagSet_append (a b : Clause) : tagSet (a ++ b) = a.tagSet ∪ b.tagSet := by
  simp [tagSet]

theorem Clause.tagSet_eq_empty {c : Clause} (h : c.tags = []) : c.tagSet = ∅ := by
  have fixed : c.fixed = [] :=
    List.eq_nil_iff_forall_not_mem.2 fun t ht => by
      have := mem_tags_of_mem_fixed ht
      simp [h] at this
  simp [tagSet, fixed]

/-- The tags of a clause are one exactly when the set of them is. -/
theorem Clause.uniform_fixed_iff (c : Clause) :
    Uniform c.fixed ↔ ∀ s ∈ c.tagSet, ∀ t ∈ c.tagSet, s = t := by
  have inj : ∀ s t : Name, TagName.mk s.text = TagName.mk t.text ↔ s = t := by
    intro s t
    constructor
    · intro h
      have h' := Name.ofString?_text s
      rw [TagName.mk.inj h, Name.ofString?_text] at h'
      exact (Option.some.inj h').symm
    · rintro rfl
      rfl
  simp [Uniform, tagSet, inj]

namespace Formula

variable {e : Expression} {f : Formula Name}

/-- Clauses of a formula without tags have no tags. -/
theorem tags_clause_eq_nil (h : ofExpression? e = .ok f) (hf : f.tags = []) {c : Clause}
    (hc : c ∈ clauses f) : c.tags = [] :=
  List.eq_nil_iff_forall_not_mem.2 fun t ht => by
    have := (mem_tags_iff h).2 ⟨c, hc, ht⟩
    simp [hf] at this

/-- Kept whole or not, an operand of a conjunction fixes the same sets of tags. -/
theorem exists_choices_tagSet_iff (h : ofExpression? e = .ok f) (s : Finset TagName) :
    (∃ c ∈ choices f, c.tagSet = s) ↔ ∃ c ∈ clauses f, c.tagSet = s := by
  rcases choices_cases f with hc | ⟨fs, gs, rfl, hgs, hc⟩
  · rw [hc]
  · have no_tags : (Formula.any fs).tags = [] := (tagFreeAll?_tags fs).1 gs hgs
    have empty : ∀ c ∈ clauses (.any fs), c.tagSet = ∅ := fun c hc =>
      Clause.tagSet_eq_empty (tags_clause_eq_nil h no_tags hc)
    obtain ⟨x, hx⟩ := List.exists_mem_of_ne_nil _ (clauses_ne_nil h)
    rw [hc]
    constructor
    · rintro ⟨c, hc, rfl⟩
      rw [List.mem_singleton.1 hc]
      exact ⟨x, hx, empty x hx⟩
    · rintro ⟨c, hc, rfl⟩
      exact ⟨_, List.mem_singleton_self _, (empty c hc).symm⟩

/-- The tag sets of an expression are those of its clauses. -/
theorem mem_tagSets_iff (h : ofExpression? e = .ok f) (s : Finset TagName) :
    s ∈ e.tagSets ↔ ∃ c ∈ clauses f, c.tagSet = s := by
  induction e generalizing f s with
  | leaf c =>
      rcases ofExpression?_leaf.1 h with ⟨t, n, rfl, -, rfl⟩ | ⟨t, n, rfl, hn, rfl⟩
      · have empty : Clause.tagSet [.test n] = ∅ := rfl
        simp [Expression.tagSets, clauses, empty, eq_comm]
      · simp [Expression.tagSets, clauses, Clause.tagSet, Clause.fixed, Operand.tag?, eq_comm,
          text_of_validName hn]
  | and l r ihl ihr =>
      obtain ⟨a, b, ha, hb, rfl⟩ := ofExpression?_and.1 h
      rw [Expression.tagSets, Finset.mem_image₂, clauses_and]
      constructor
      · rintro ⟨x, hx, y, hy, rfl⟩
        obtain ⟨c, hc, rfl⟩ := (exists_choices_tagSet_iff ha x).2 ((ihl ha x).1 hx)
        obtain ⟨d, hd, rfl⟩ := (exists_choices_tagSet_iff hb y).2 ((ihr hb y).1 hy)
        exact ⟨c ++ d, mem_joined.2 ⟨c, hc, d, hd, rfl⟩, Clause.tagSet_append c d⟩
      · rintro ⟨x, hx, rfl⟩
        obtain ⟨c, hc, d, hd, rfl⟩ := mem_joined.1 hx
        refine ⟨c.tagSet, ?_, d.tagSet, ?_, (Clause.tagSet_append c d).symm⟩
        · exact (ihl ha _).2 ((exists_choices_tagSet_iff ha _).1 ⟨c, hc, rfl⟩)
        · exact (ihr hb _).2 ((exists_choices_tagSet_iff hb _).1 ⟨d, hd, rfl⟩)
  | or l r ihl ihr =>
      obtain ⟨a, b, ha, hb, rfl⟩ := ofExpression?_or.1 h
      rw [Expression.tagSets, Finset.mem_union, ihl ha, ihr hb, clauses_or]
      simp only [List.mem_append, or_and_right, exists_or]
  | not e ih =>
      obtain ⟨a, ha, rfl⟩ := ofExpression?_not.1 h
      have empty : Clause.tagSet [.not (ofClauses (clauses a))] = ∅ := rfl
      simp [Expression.tagSets, clauses, empty, eq_comm]

/-- A disjunction that is kept whole has no tags, and nothing is negated in it that may not be. -/
theorem permitted_choices_iff (h : ofExpression? e = .ok f)
    (hc : (∀ c ∈ clauses f, ∀ o ∈ c, o.Permitted) ↔ ¬ e.NegatesTag) :
    (∀ c ∈ choices f, ∀ o ∈ c, o.Permitted) ↔ ¬ e.NegatesTag := by
  rcases choices_cases f with same | ⟨fs, gs, rfl, hgs, whole⟩
  · rw [same, hc]
  · have no_tags : e.tags = [] := by
      rw [← tags_of_ofExpression? h, tags, (tagFreeAll?_tags fs).1 gs hgs]
      rfl
    rw [whole]
    constructor
    · intro _ hn
      exact Expression.tags_ne_nil_of_negatesTag hn no_tags
    · intro _
      simp [Operand.Permitted]

/-- Every clause of either side is a part of a joined one, for the other side has a clause too. -/
theorem permitted_joined_iff {as bs : List Clause} (ha : as ≠ []) (hb : bs ≠ []) :
    (∀ c ∈ joined as bs, ∀ o ∈ c, o.Permitted) ↔
      (∀ c ∈ as, ∀ o ∈ c, o.Permitted) ∧ ∀ c ∈ bs, ∀ o ∈ c, o.Permitted := by
  obtain ⟨x, hx⟩ := List.exists_mem_of_ne_nil _ ha
  obtain ⟨y, hy⟩ := List.exists_mem_of_ne_nil _ hb
  constructor
  · intro hp
    constructor
    · intro c hc o ho
      exact hp _ (mem_joined.2 ⟨c, hc, y, hy, rfl⟩) o (List.mem_append_left _ ho)
    · intro d hd o ho
      exact hp _ (mem_joined.2 ⟨x, hx, d, hd, rfl⟩) o (List.mem_append_right _ ho)
  · rintro ⟨hpa, hpb⟩ z hz o ho
    obtain ⟨c, hc, d, hd, rfl⟩ := mem_joined.1 hz
    exact (List.mem_append.1 ho).elim (hpa c hc o) (hpb d hd o)

/-- The negations in the clauses are permitted exactly when the expression negates no tag. -/
theorem permitted_iff (h : ofExpression? e = .ok f) :
    (∀ c ∈ clauses f, ∀ o ∈ c, o.Permitted) ↔ ¬ e.NegatesTag := by
  induction e generalizing f with
  | leaf c =>
      rcases ofExpression?_leaf.1 h with ⟨t, n, rfl, -, rfl⟩ | ⟨t, n, rfl, hn, rfl⟩
      · simp [clauses, Operand.Permitted, Expression.NegatesTag]
      · simp [clauses, Operand.Permitted, Expression.NegatesTag]
  | and l r ihl ihr =>
      obtain ⟨a, b, ha, hb, rfl⟩ := ofExpression?_and.1 h
      rw [Expression.NegatesTag, not_or, clauses_and,
        permitted_joined_iff (choices_ne_nil ha) (choices_ne_nil hb)]
      exact and_congr (permitted_choices_iff ha (ihl ha)) (permitted_choices_iff hb (ihr hb))
  | or l r ihl ihr =>
      obtain ⟨a, b, ha, hb, rfl⟩ := ofExpression?_or.1 h
      rw [Expression.NegatesTag, not_or, clauses_or, List.forall_mem_append]
      exact and_congr (ihl ha) (ihr hb)
  | not e ih =>
      obtain ⟨a, ha, rfl⟩ := ofExpression?_not.1 h
      have same : (ofClauses (clauses a)).tags = [] ↔ a.tags = [] := by
        rw [tags_ofClauses, List.eq_nil_iff_forall_not_mem, List.eq_nil_iff_forall_not_mem]
        simp only [List.mem_flatMap, mem_tags_iff ha]
      have tags_nil : a.tags = [] ↔ e.tags = [] := by
        rw [← tags_of_ofExpression? ha, List.map_eq_nil_iff]
      simp [clauses, Operand.Permitted, Expression.NegatesTag, same, tags_nil]

/-- When a formula has a selector. -/
theorem exists_selector_iff (h : ofExpression? e = .ok f) :
    (∃ s, f.selector = .ok s) ↔
      ¬ e.NegatesTag ∧ ∀ s ∈ e.tagSets, ∀ t ∈ s, ∀ u ∈ s, t = u := by
  have split : (∃ s, f.selector = .ok s) ↔
      ∀ c ∈ clauses f, ∃ d, Conjunction.ofClause c = .ok d := by
    rw [← exists_conjunctions_iff]
    simp only [selector, Except.bind_eq_ok_iff, Except.pure_eq, Except.ok.injEq]
    constructor
    · rintro ⟨_, ds, h, -⟩
      exact ⟨ds, h⟩
    · rintro ⟨ds, h⟩
      exact ⟨_, ds, h, rfl⟩
  rw [split, ← permitted_iff h]
  simp only [Conjunction.exists_ofClause_iff, forall_and, Clause.uniform_fixed_iff,
    mem_tagSets_iff h]
  refine and_congr_right fun _ => ?_
  constructor
  · rintro one _ ⟨c, hc, rfl⟩
    exact one c hc
  · intro one c hc
    exact one _ ⟨c, hc, rfl⟩

end Formula

/-! ### Compilation -/

namespace Expression

/-- An expression has a query exactly when it has a selector. -/
theorem exists_query_iff (e : Expression) :
    (∃ q, e.compile = .ok q) ↔ ∃ s, e.selector = .ok s := by
  simp only [compile, Except.bind_eq_ok_iff, Except.pure_eq, Except.ok.injEq]
  constructor
  · rintro ⟨_, s, h, -⟩
    exact ⟨s, h⟩
  · rintro ⟨s, h⟩
    exact ⟨_, s, h, rfl⟩

/-- An expression whose selector is made from its formula has one exactly when it is well-formed. -/
theorem exists_selector_iff_of_formula {e : Expression}
    (he : e.selector = Formula.ofExpression? e >>= Formula.selector) :
    (∃ s, e.selector = .ok s) ↔ e.WellFormed := by
  rw [he]
  simp only [Except.bind_eq_ok_iff]
  constructor
  · rintro ⟨s, f, hf, hs⟩
    obtain ⟨links, names⟩ := (Formula.exists_ofExpression?_iff e).1 ⟨f, hf⟩
    obtain ⟨negated, one⟩ := (Formula.exists_selector_iff hf).1 ⟨s, hs⟩
    exact ⟨links, names, negated, one⟩
  · rintro ⟨links, names, negated, one⟩
    obtain ⟨f, hf⟩ := (Formula.exists_ofExpression?_iff e).2 ⟨links, names⟩
    obtain ⟨s, hs⟩ := (Formula.exists_selector_iff hf).2 ⟨negated, one⟩
    exact ⟨s, f, hf, hs⟩

/-- A tag on its own is well-formed exactly when its name may stand in a selector. -/
theorem wellFormed_tag_iff (t : TagName) : WellFormed (.leaf (.tag t)) ↔ NameText t.text := by
  constructor
  · intro h
    exact h.names _ (List.mem_singleton_self _) _ rfl
  · intro h
    constructor <;> simp [leaves, Condition.name?, NegatesTag, tagSets, h]

/-- **An expression is compiled exactly when it is a text of a link on its own, or well-formed.** -/
theorem exists_compile_iff (e : Expression) :
    (∃ q, e.compile = .ok q) ↔ e.LoneLinkText ∨ e.WellFormed := by
  rw [exists_query_iff]
  match e with
  | .leaf (.linkText text part) => simp [selector, LoneLinkText]
  | .leaf (.tag t) =>
      -- A tag on its own has a strategy of its own, and no formula is made of it.
      have lone : ¬ LoneLinkText (.leaf (.tag t)) := by simp [LoneLinkText]
      rw [or_iff_right lone, wellFormed_tag_iff, ← Formula.exists_validName_iff .tag]
      simp only [selector, Except.bind_eq_ok_iff, Except.pure_eq, Except.ok.injEq]
      constructor
      · rintro ⟨_, n, hn, -⟩
        exact ⟨n, hn⟩
      · rintro ⟨n, hn⟩
        exact ⟨_, n, hn, rfl⟩
  | .leaf (.test t) =>
      rw [exists_selector_iff_of_formula rfl, or_iff_right (by simp [LoneLinkText])]
  | .and l r => rw [exists_selector_iff_of_formula rfl, or_iff_right (by simp [LoneLinkText])]
  | .or l r => rw [exists_selector_iff_of_formula rfl, or_iff_right (by simp [LoneLinkText])]
  | .not inner => rw [exists_selector_iff_of_formula rfl, or_iff_right (by simp [LoneLinkText])]

end Expression

end WebDriverClient.Locator
