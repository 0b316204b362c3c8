/-
**What a refusal says.**

An expression that has no query is refused for a reason, and the reason names something of the
expression: the leaf at fault, a tag below a negation, or two tags that are asked of one element.
What a reason says is stated here on the expression alone, as it was before anything was merged,
distributed or put in order.

Main definitions:

* `Locator.Failure.Accuses`, `Locator.Failure.AccusesFirst` — what is wrong with a leaf, and with the
  first leaf that is at fault;
* `Locator.Expression.negatedTags` — the tags below negations;
* `Locator.Failure.IsTrueOf` — what a reason says of an expression.

Main results:

* `Locator.Formula.ofExpression?_eq_error_iff` — the leaf that is accused is the leftmost at fault;
* `Locator.Conjunction.faulty_of_addAll` — operands are refused for two tags or for a negation;
* `Locator.Expression.isTrueOf_compile` — **every reason is true of its expression**.
-/

import WebDriverClient.Proofs.Locator.Acceptance
import WebDriverClient.Proofs.Locator.Assembly

set_option autoImplicit false

namespace WebDriverClient.Locator

/-! ### Leaves at fault -/

/-- The reason says what is wrong with the condition. -/
inductive Failure.Accuses : Failure → Condition → Prop
  | linkText (text : String) (part : Bool) :
      Accuses (.linkTextNotComposable text) (.linkText text part)
  | attr {name : String} (h : ¬ NameText name) (relation : Relation) (value : String) :
      Accuses (.invalidName .attr name) (.test (.attr name relation value))
  | comparedAttr {name : String} (h : ¬ NameText name) (comparison : Comparison) (value : String) :
      Accuses (.invalidName .attr name) (.test (.comparison (.attr name) comparison value))
  | function {name : String} (h : ¬ NameText name) (comparison : Comparison) (value : String) :
      Accuses (.invalidName .function name) (.test (.comparison (.function name) comparison value))
  | tag {t : TagName} (h : ¬ NameText t.text) : Accuses (.invalidName .tag t.text) (.tag t)

/-- The condition can be accused of nothing. -/
def Condition.IsSound (c : Condition) : Prop := ∀ x : Failure, ¬ x.Accuses c

/-- The reason accuses one of the conditions, and those before it can be accused of nothing. -/
def Failure.AccusesFirst (x : Failure) (cs : List Condition) : Prop :=
  ∃ before c after, cs = before ++ c :: after ∧ x.Accuses c ∧ ∀ d ∈ before, d.IsSound

namespace Expression

/-- The tags that stand below negations. -/
def negatedTags : Expression → List TagName
  | .leaf _ => []
  | .and l r => l.negatedTags ++ r.negatedTags
  | .or l r => l.negatedTags ++ r.negatedTags
  | .not e => e.tags

end Expression

/-- What a reason says of an expression. -/
def Failure.IsTrueOf (e : Expression) : Failure → Prop
  | .tagContradiction first second =>
      first ≠ second ∧ NameText first ∧ NameText second ∧
        TagName.mk first ∈ e.tags ∧ TagName.mk second ∈ e.tags ∧
        ∃ s ∈ e.tagSets, TagName.mk first ∈ s ∧ TagName.mk second ∈ s
  | .negatedTag tag => NameText tag ∧ TagName.mk tag ∈ e.negatedTags
  | x => x.AccusesFirst e.leaves

namespace Formula

theorem validName_eq_error_iff {kind : NameKind} {s : String} {x : Failure} :
    validName kind s = .error x ↔ ¬ NameText s ∧ x = .invalidName kind s := by
  rw [← exists_ofString?_iff, validName]
  cases Name.ofString? s <;> simp [eq_comm]

/-- A test is refused for its name. -/
theorem validTest_eq_error_iff {t : Test String} {x : Failure} :
    validTest t = .error x ↔ x.Accuses (.test t) := by
  rcases t with ⟨name, relation, value⟩ | ⟨name | name, comparison, value⟩
  all_goals
    simp only [validTest, Except.bind_eq_error_iff, Except.pure_eq, reduceCtorEq, and_false,
      exists_false, or_false, validName_eq_error_iff]
    constructor
    · rintro ⟨h, rfl⟩
      constructor
      exact h
    · rintro ⟨h⟩
      exact ⟨‹_›, rfl⟩

/-- A condition is refused for what it can be accused of. -/
theorem ofCondition?_eq_error_iff {c : Condition} {x : Failure} :
    ofCondition? c = .error x ↔ x.Accuses c := by
  cases c with
  | test t =>
      rw [← validTest_eq_error_iff]
      simp [ofCondition?, Except.bind_eq_error_iff]
  | tag t =>
      simp only [ofCondition?, Except.bind_eq_error_iff, validName_eq_error_iff, Except.pure_eq,
        reduceCtorEq, and_false, exists_false, or_false]
      constructor
      · rintro ⟨h, rfl⟩
        exact .tag h
      · intro h
        cases h with
        | tag h => exact ⟨h, rfl⟩
  | linkText text part =>
      simp only [ofCondition?, Except.error.injEq]
      constructor
      · rintro rfl
        exact .linkText text part
      · rintro ⟨⟩
        rfl

end Formula

/-! ### The leftmost fault -/

namespace Failure

variable {x : Failure}

theorem accusesFirst_singleton {c : Condition} : x.AccusesFirst [c] ↔ x.Accuses c := by
  constructor
  · rintro ⟨before, d, after, h, accuses, -⟩
    have member : d ∈ [c] := h ▸ List.mem_append_right before List.mem_cons_self
    exact List.mem_singleton.1 member ▸ accuses
  · intro h
    exact ⟨[], c, [], rfl, h, by simp⟩

/-- A fault on the left comes first. -/
theorem accusesFirst_append {as bs : List Condition} :
    x.AccusesFirst (as ++ bs) ↔
      x.AccusesFirst as ∨ (∀ c ∈ as, c.IsSound) ∧ x.AccusesFirst bs := by
  constructor
  · rintro ⟨before, c, after, h, accuses, sound⟩
    rcases List.append_eq_append_iff.1 h with ⟨more, rfl, rfl⟩ | ⟨rest, rfl, tail⟩
    · obtain ⟨left, right⟩ := List.forall_mem_append.1 sound
      exact .inr ⟨left, more, c, after, rfl, accuses, right⟩
    · cases rest with
      | nil =>
          rw [List.append_nil]
          exact .inr ⟨sound, [], c, after, tail.symm, accuses, by simp⟩
      | cons d rest =>
          obtain ⟨rfl, -⟩ := List.cons.inj tail
          exact .inl ⟨before, c, rest, rfl, accuses, sound⟩
  · rintro (⟨before, c, after, rfl, accuses, sound⟩ | ⟨left, before, c, after, rfl, accuses, sound⟩)
    · exact ⟨before, c, after ++ bs, by simp, accuses, sound⟩
    · exact ⟨as ++ before, c, after, by simp, accuses, List.forall_mem_append.2 ⟨left, sound⟩⟩

/-- Where a condition is at fault there is a first one. -/
theorem exists_accusesFirst_iff (cs : List Condition) :
    (∃ x : Failure, x.AccusesFirst cs) ↔ ¬ ∀ c ∈ cs, c.IsSound := by
  induction cs with
  | nil => simp [AccusesFirst]
  | cons c cs ih =>
      have split (x : Failure) :
          x.AccusesFirst (c :: cs) ↔ x.Accuses c ∨ c.IsSound ∧ x.AccusesFirst cs := by
        rw [← List.singleton_append, accusesFirst_append, accusesFirst_singleton]
        simp
      simp only [split, exists_or, exists_and_left, ih, List.forall_mem_cons, not_and_or]
      have accused : (∃ x : Failure, x.Accuses c) ↔ ¬ c.IsSound := by
        simp [Condition.IsSound]
      rw [accused]
      tauto

end Failure

namespace Formula

/-- A formula of two operands is refused for the left one, or for the right one after it. -/
theorem twoOperands_eq_error_iff {a b : Except Failure (Formula Name)}
    {g : Formula Name → Formula Name → Formula Name} {x : Failure} :
    (do
      let l ← a
      let r ← b
      return g l r) = .error x ↔ a = .error x ∨ (∃ l, a = .ok l) ∧ b = .error x := by
  cases a with
  | error y =>
      change Except.error y = Except.error x ↔ _
      simp
  | ok l =>
      cases b with
      | error y =>
          change Except.error y = Except.error x ↔ _
          simp
      | ok r =>
          change Except.ok (g l r) = Except.error x ↔ _
          simp

/-- An expression is refused for a leaf exactly when one is at fault, and then for the leftmost. -/
theorem ofExpression?_eq_error_iff (e : Expression) (x : Failure) :
    ofExpression? e = .error x ↔ x.AccusesFirst e.leaves := by
  -- The right operand is looked at only if no leaf of the left one is at fault.
  have sound {e : Expression} (ih : ∀ x, ofExpression? e = .error x ↔ x.AccusesFirst e.leaves) :
      (∃ f, ofExpression? e = .ok f) ↔ ∀ c ∈ e.leaves, c.IsSound := by
    rw [← not_iff_not, ← Failure.exists_accusesFirst_iff]
    simp only [← ih]
    cases ofExpression? e <;> simp
  induction e generalizing x with
  | leaf c => exact ofCondition?_eq_error_iff.trans Failure.accusesFirst_singleton.symm
  | and l r ihl ihr =>
      have leaves : (Expression.and l r).leaves = l.leaves ++ r.leaves := rfl
      simp only [leaves, Failure.accusesFirst_append, ← ihl, ← ihr, ← sound ihl]
      exact twoOperands_eq_error_iff
  | or l r ihl ihr =>
      have leaves : (Expression.or l r).leaves = l.leaves ++ r.leaves := rfl
      simp only [leaves, Failure.accusesFirst_append, ← ihl, ← ihr, ← sound ihl]
      exact twoOperands_eq_error_iff
  | not e ih =>
      simp only [show (Expression.not e).leaves = e.leaves from rfl, ← ih]
      simp [ofExpression?, Except.bind_eq_error_iff]

end Formula

/-! ### Clauses at fault -/

/-- What is wrong with a clause: it fixes two tags, or one of its negations holds a tag. -/
inductive Clause.Faulty (c : Clause) : Failure → Prop
  | tags {s t : Name} (different : s ≠ t) (hs : s ∈ c.fixed) (ht : t ∈ c.fixed) :
      Faulty c (.tagContradiction s.text t.text)
  | negated {f : Formula Name} {t : Name} (h : .not f ∈ c) (ht : t ∈ f.tags) :
      Faulty c (.negatedTag t.text)

theorem Clause.Faulty.mono {c d : Clause} {x : Failure} (h : c.Faulty x) (sub : c ⊆ d) :
    d.Faulty x := by
  cases h with
  | tags different hs ht =>
      have fixed : c.fixed ⊆ d.fixed := List.filterMap_subset _ sub
      exact .tags different (fixed hs) (fixed ht)
  | negated h ht => exact .negated (sub h) ht

namespace Conjunction

/-- The tag of a conjunction as an operand. -/
def tagOperand (c : Conjunction) : Clause := c.tag.toList.map Operand.tag

theorem faulty_of_add {c : Conjunction} {o : Operand} {x : Failure} (h : c.add o = .error x) :
    Clause.Faulty (c.tagOperand ++ [o]) x := by
  cases o with
  | tag t =>
      simp only [add] at h
      split at h
      next => cases h
      next s tagged =>
        split at h
        next => cases h
        next different =>
          cases h
          refine .tags different ?_ ?_
          · simp [tagOperand, tagged, Clause.fixed, Operand.tag?]
          · simp [Clause.fixed, Operand.tag?]
  | test t => cases h
  | any fs => cases h
  | not f =>
      simp only [add] at h
      split at h
      next => cases h
      next t ht =>
        cases h
        have first := List.mem_of_mem_head? (Formula.tagFree?_eq_error ht)
        exact .negated (List.mem_append_right _ (List.mem_singleton_self _)) first

/-- No tag comes from elsewhere than an operand. -/
theorem tagOperand_of_add {c d : Conjunction} {o : Operand} (h : c.add o = .ok d) :
    d.tagOperand ⊆ c.tagOperand ++ [o] := by
  cases o with
  | tag t =>
      simp only [add] at h
      split at h
      next =>
        cases h
        exact List.subset_append_right _ _
      next =>
        split at h
        next =>
          cases h
          exact List.subset_append_left _ _
        next => cases h
  | test t =>
      cases h
      exact List.subset_append_left _ _
  | any fs =>
      cases h
      exact List.subset_append_left _ _
  | not f =>
      simp only [add] at h
      split at h
      next =>
        cases h
        exact List.subset_append_left _ _
      next => cases h

/-- Operands that cannot be put together are at fault. -/
theorem faulty_of_addAll {os : List Operand} {c : Conjunction} {x : Failure}
    (h : c.addAll os = .error x) : Clause.Faulty (c.tagOperand ++ os) x := by
  induction os generalizing c with
  | nil => cases h
  | cons o os ih =>
      rw [List.append_cons]
      rcases Except.bind_eq_error_iff.1 h with h | ⟨d, hd, h⟩
      · exact (faulty_of_add h).mono (List.subset_append_left _ _)
      · have kept : d.tagOperand ++ os ⊆ (c.tagOperand ++ [o]) ++ os :=
          List.append_subset.2 ⟨List.subset_append_of_subset_left os (tagOperand_of_add hd),
            List.subset_append_right _ os⟩
        exact (ih h).mono kept

end Conjunction

/-- Clauses are refused for one of them. -/
theorem exists_faulty_of_conjunctions {cs : List Clause} {x : Failure}
    (h : conjunctions cs = .error x) : ∃ c ∈ cs, c.Faulty x := by
  induction cs with
  | nil => cases h
  | cons c cs ih =>
      rcases Except.bind_eq_error_iff.1 h with h | ⟨d, -, h⟩
      · exact ⟨c, List.mem_cons_self, Conjunction.faulty_of_addAll h⟩
      · rcases Except.bind_eq_error_iff.1 h with h | ⟨ds, -, h⟩
        · obtain ⟨c', hc', faulty⟩ := ih h
          exact ⟨c', List.mem_cons_of_mem c hc', faulty⟩
        · cases h

/-! ### From clauses to the expression -/

theorem nameText_text (t : Name) : NameText t.text :=
  (exists_ofString?_iff t.text).1 ⟨t, Name.ofString?_text t⟩

namespace Formula

variable {e : Expression} {f : Formula Name} {x : Failure}

/-- A tag in a negation of a clause stands below a negation of the expression. -/
theorem mem_negatedTags (h : ofExpression? e = .ok f) {c : Clause} (hc : c ∈ clauses f)
    {g : Formula Name} (hg : .not g ∈ c) {t : Name} (ht : t ∈ g.tags) :
    TagName.mk t.text ∈ e.negatedTags := by
  -- What is kept whole in a conjunction is a disjunction and no negation.
  have negated {f : Formula Name} {c : Clause} (hc : c ∈ choices f) (hg : .not g ∈ c) :
      c ∈ clauses f := by
    rcases choices_cases f with same | ⟨fs, gs, -, -, whole⟩
    · exact same ▸ hc
    · rw [whole, List.mem_singleton] at hc
      simp [hc] at hg
  induction e generalizing f c with
  | leaf l =>
      rcases ofExpression?_leaf.1 h with ⟨_, n, -, -, rfl⟩ | ⟨_, n, -, -, rfl⟩
      all_goals
        rw [clauses, List.mem_singleton] at hc
        simp [hc] at hg
  | and l r ihl ihr =>
      obtain ⟨a, b, ha, hb, rfl⟩ := ofExpression?_and.1 h
      rw [clauses_and] at hc
      obtain ⟨c₁, h₁, c₂, h₂, rfl⟩ := mem_joined.1 hc
      rcases List.mem_append.1 hg with hg | hg
      · exact List.mem_append_left _ (ihl ha (negated h₁ hg) hg)
      · exact List.mem_append_right _ (ihr hb (negated h₂ hg) hg)
  | or l r ihl ihr =>
      obtain ⟨a, b, ha, hb, rfl⟩ := ofExpression?_or.1 h
      rw [clauses_or] at hc
      rcases List.mem_append.1 hc with hc | hc
      · exact List.mem_append_left _ (ihl ha hc hg)
      · exact List.mem_append_right _ (ihr hb hc hg)
  | not e _ =>
      obtain ⟨a, ha, rfl⟩ := ofExpression?_not.1 h
      rw [clauses, List.mem_singleton] at hc
      rw [hc, List.mem_singleton] at hg
      obtain rfl := Operand.not.inj hg
      rw [tags_ofClauses, List.mem_flatMap] at ht
      have tag : t ∈ a.tags := (mem_tags_iff ha).2 ht
      rw [Expression.negatedTags, ← tags_of_ofExpression? ha]
      exact List.mem_map_of_mem tag

/-- What is wrong with a clause is true of the expression. -/
theorem isTrueOf_of_faulty (h : ofExpression? e = .ok f) {c : Clause} (hc : c ∈ clauses f)
    (faulty : c.Faulty x) : x.IsTrueOf e := by
  have leaf {t : Name} (ht : t ∈ c.fixed) : TagName.mk t.text ∈ e.tags := by
    rw [← tags_of_ofExpression? h]
    exact List.mem_map_of_mem ((mem_tags_iff h).2 ⟨c, hc, Clause.mem_tags_of_mem_fixed ht⟩)
  cases faulty with
  | @tags s t different hs ht =>
      refine ⟨?_, nameText_text s, nameText_text t, leaf hs, leaf ht, c.tagSet,
        (mem_tagSets_iff h _).2 ⟨c, hc, rfl⟩, ?_, ?_⟩
      · intro same
        have name := Name.ofString?_text s
        rw [same, Name.ofString?_text] at name
        exact different (Option.some.inj name).symm
      · exact List.mem_toFinset.2 (List.mem_map_of_mem hs)
      · exact List.mem_toFinset.2 (List.mem_map_of_mem ht)
  | @negated g t hg ht => exact ⟨nameText_text t, mem_negatedTags h hc hg ht⟩

end Formula

/-! ### Refusals -/

namespace Failure

variable {e : Expression} {x : Failure}

/-- Only a reason that is about a leaf accuses one. -/
theorem isTrueOf_of_accusesFirst (h : x.AccusesFirst e.leaves) : x.IsTrueOf e := by
  obtain ⟨-, c, -, -, accuses, -⟩ := id h
  cases accuses <;> exact h

/-- The texts of the tags that are in one another's way, or in the way of a negation. -/
def clashing : Failure → List String
  | .tagContradiction first second => [first, second]
  | .negatedTag tag => [tag]
  | _ => []

/-- These tags are names, and so none of them is the star that stands for any tag. -/
theorem star_not_mem_clashing (h : x.IsTrueOf e) : "*" ∉ x.clashing := by
  have star : ¬ NameText "*" := by
    rw [← exists_ofString?_iff]
    rintro ⟨n, hn⟩
    cases hn
  intro mem
  cases x with
  | tagContradiction first second =>
      obtain ⟨-, left, right, -⟩ := h
      rcases List.mem_pair.1 mem with rfl | rfl
      · exact star left
      · exact star right
  | negatedTag tag =>
      obtain rfl := List.mem_singleton.1 mem
      exact star h.1
  | invalidName kind name => cases mem
  | linkTextNotComposable text => cases mem

end Failure

namespace Expression

variable {e : Expression} {x : Failure}

/-- Why the formula of an expression has no selector, or why there is no formula. -/
theorem isTrueOf_of_formula (h : Formula.ofExpression? e >>= Formula.selector = .error x) :
    x.IsTrueOf e := by
  rcases Except.bind_eq_error_iff.1 h with h | ⟨f, hf, h⟩
  · exact Failure.isTrueOf_of_accusesFirst ((Formula.ofExpression?_eq_error_iff e x).1 h)
  · rcases Except.bind_eq_error_iff.1 h with h | ⟨ds, -, h⟩
    · obtain ⟨c, hc, faulty⟩ := exists_faulty_of_conjunctions h
      exact Formula.isTrueOf_of_faulty hf hc faulty
    · cases h

theorem isTrueOf_of_selector (h : e.selector = .error x) : x.IsTrueOf e := by
  match e with
  | .leaf (.linkText text part) => cases h
  | .leaf (.tag t) =>
      rcases Except.bind_eq_error_iff.1 h with h | ⟨n, -, h⟩
      · obtain ⟨invalid, rfl⟩ := Formula.validName_eq_error_iff.1 h
        exact Failure.accusesFirst_singleton.2 (.tag invalid)
      · cases h
  | .leaf (.test t) => exact isTrueOf_of_formula h
  | .and l r => exact isTrueOf_of_formula h
  | .or l r => exact isTrueOf_of_formula h
  | .not inner => exact isTrueOf_of_formula h

/-- **Every reason is true of its expression**, and the answers that the rule would give where it
has nothing to say, with a star for a tag, are never given. -/
theorem isTrueOf_compile (e : Expression) :
    (∀ x, e.compile = .error x → x.IsTrueOf e ∧ "*" ∉ x.clashing) ∧
      ∀ stray, e.assemble stray = e.compile := by
  refine ⟨fun x h => ?_, fun stray => assemble_eq stray e⟩
  rcases Except.bind_eq_error_iff.1 h with h | ⟨s, -, h⟩
  · have accurate := isTrueOf_of_selector h
    exact ⟨accurate, Failure.star_not_mem_clashing accurate⟩
  · cases h

/-- Two tags meet in the second clause of a conjunction of disjunctions. -/
theorem isTrueOf_compile_second_clause :
    (((tag ⟨"p"⟩).or (tag ⟨"li"⟩)).and
        ((text (.relation .contains) "a").and ((tag ⟨"p"⟩).or (tag ⟨"li"⟩)))).compile
          = .error (.tagContradiction "p" "li") ∧
      (Failure.tagContradiction "p" "li").IsTrueOf
        (((tag ⟨"p"⟩).or (tag ⟨"li"⟩)).and
          ((text (.relation .contains) "a").and ((tag ⟨"p"⟩).or (tag ⟨"li"⟩)))) := by
  have refused : (((tag ⟨"p"⟩).or (tag ⟨"li"⟩)).and
      ((text (.relation .contains) "a").and ((tag ⟨"p"⟩).or (tag ⟨"li"⟩)))).compile
        = .error (.tagContradiction "p" "li") := rfl
  exact ⟨refused, ((isTrueOf_compile _).1 _ refused).1⟩

end Expression

end WebDriverClient.Locator
