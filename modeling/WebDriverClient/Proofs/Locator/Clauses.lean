/-
**The clauses of an expression.**

`Locator.Formula.clauses` follows the recursion of formulas, but a formula comes from an expression,
whose conjunctions and disjunctions are of two operands each.  The equations here read the clauses
off the expression: those of a disjunction are the clauses of both operands, and those of a
conjunction are the ways to join a clause of the one to a clause of the other.  The exception is an
operand that is a disjunction without tags, which is kept whole.

Main definitions:

* `Locator.Expression.leaves`, `Locator.Expression.tags` — the conditions and the tags of an
  expression, from the left;
* `Locator.Formula.tags` — the tags of a formula, from the left;
* `Locator.Formula.choices` — the clauses of a formula as an operand of a conjunction.

Main results:

* `Locator.Formula.clauses_and`, `Locator.Formula.clauses_or` — the clauses of a conjunction and of
  a disjunction;
* `Locator.Formula.tagFree?_eq_error`, `Locator.Formula.exists_tagFree?_iff` — a formula without
  tags is found out, and so is the first tag of any other;
* `Locator.Formula.tags_of_ofExpression?` — a formula has the tags of its expression;
* `Locator.Formula.mem_tags_iff` — the clauses have the tags of their formula;
* `Locator.Expression.selector_cases` — what the selector of an expression comes from.
-/

import WebDriverClient.Locator.Compile
import WebDriverClient.Proofs.Outcome

set_option autoImplicit false

namespace WebDriverClient.Locator

/-! ### Leaves -/

/-- The tag that a condition asks. -/
def Condition.tag? : Condition → Option TagName
  | .tag t => some t
  | _ => none

namespace Expression

/-- The conditions of an expression, from the left. -/
def leaves : Expression → List Condition
  | .leaf c => [c]
  | .and l r => l.leaves ++ r.leaves
  | .or l r => l.leaves ++ r.leaves
  | .not e => e.leaves

/-- The tags of an expression, from the left. -/
def tags (e : Expression) : List TagName := e.leaves.filterMap Condition.tag?

@[simp] theorem tags_and (l r : Expression) : (and l r).tags = l.tags ++ r.tags :=
  List.filterMap_append

@[simp] theorem tags_or (l r : Expression) : (or l r).tags = l.tags ++ r.tags :=
  List.filterMap_append

@[simp] theorem tags_not (e : Expression) : (not e).tags = e.tags := rfl

end Expression

namespace Formula

variable {τ : Type}

/-! ### The formula of an expression -/

theorem validName_eq_ok {kind : NameKind} {s : String} {n : Name} :
    validName kind s = .ok n ↔ Name.ofString? s = some n := by
  unfold validName
  cases Name.ofString? s <;> simp

theorem text_of_validName {kind : NameKind} {s : String} {n : Name}
    (h : validName kind s = .ok n) : n.text = s :=
  Name.text_of_ofString? (validName_eq_ok.1 h)

theorem ofExpression?_and {l r : Expression} {f : Formula Name} :
    ofExpression? (.and l r) = .ok f ↔ ∃ a b, ofExpression? l = .ok a ∧ ofExpression? r = .ok b ∧
      .all (a.operands ++ b.operands) = f := by
  simp only [ofExpression?, Except.bind_eq_ok_iff, Except.pure_eq, Except.ok.injEq]
  constructor
  · rintro ⟨a, ha, b, hb, h⟩
    exact ⟨a, b, ha, hb, h⟩
  · rintro ⟨a, b, ha, hb, h⟩
    exact ⟨a, ha, b, hb, h⟩

theorem ofExpression?_or {l r : Expression} {f : Formula Name} :
    ofExpression? (.or l r) = .ok f ↔ ∃ a b, ofExpression? l = .ok a ∧ ofExpression? r = .ok b ∧
      .any (a.branches ++ b.branches) = f := by
  simp only [ofExpression?, Except.bind_eq_ok_iff, Except.pure_eq, Except.ok.injEq]
  constructor
  · rintro ⟨a, ha, b, hb, h⟩
    exact ⟨a, b, ha, hb, h⟩
  · rintro ⟨a, b, ha, hb, h⟩
    exact ⟨a, ha, b, hb, h⟩

theorem ofExpression?_not {e : Expression} {f : Formula Name} :
    ofExpression? (.not e) = .ok f ↔ ∃ a, ofExpression? e = .ok a ∧ .not a = f := by
  simp only [ofExpression?, Except.bind_eq_ok_iff, Except.pure_eq, Except.ok.injEq]

theorem ofExpression?_leaf {c : Condition} {f : Formula Name} :
    ofExpression? (.leaf c) = .ok f ↔
      (∃ t n, c = .test t ∧ validTest t = .ok n ∧ .test n = f) ∨
      (∃ t n, c = .tag t ∧ validName .tag t.text = .ok n ∧ .tag n = f) := by
  cases c with
  | test t => simp [ofExpression?, ofCondition?, Except.bind_eq_ok_iff]
  | tag t => simp [ofExpression?, ofCondition?, Except.bind_eq_ok_iff]
  | linkText text part => simp [ofExpression?, ofCondition?]

/-! ### Tags of formulas -/

mutual

/-- The tags of a formula, from the left. -/
def tags : Formula τ → List τ
  | .tag t => [t]
  | .test _ => []
  | .all fs => tagsAll fs
  | .any fs => tagsAll fs
  | .not f => tags f

/-- The tags of the formulas of a list. -/
def tagsAll : List (Formula τ) → List τ
  | [] => []
  | f :: fs => tags f ++ tagsAll fs

end

theorem tagsAll_append (fs gs : List (Formula τ)) :
    tagsAll (fs ++ gs) = tagsAll fs ++ tagsAll gs := by
  induction fs with
  | nil => rfl
  | cons f fs ih => simp [tagsAll, ih]

@[simp] theorem tagsAll_operands (f : Formula τ) : tagsAll f.operands = f.tags := by
  cases f <;> simp [operands, tags, tagsAll]

@[simp] theorem tagsAll_branches (f : Formula τ) : tagsAll f.branches = f.tags := by
  cases f <;> simp [branches, tags, tagsAll]

mutual

/-- What `tagFree?` says about the tags of a formula. -/
theorem tagFree?_tags : ∀ f : Formula τ,
    (∀ g, f.tagFree? = .ok g → f.tags = []) ∧
      ∀ t, f.tagFree? = .error t → f.tags.head? = some t
  | .tag t => by simp [tagFree?, tags]
  | .test t => by simp [tagFree?, tags]
  | .all fs => by
      have h := tagFreeAll?_tags fs
      refine ⟨fun g hg => ?_, fun t ht => ?_⟩
      · obtain ⟨gs, hgs, -⟩ := Except.bind_eq_ok_iff.1 hg
        exact h.1 gs hgs
      · rcases Except.bind_eq_error_iff.1 ht with ht | ⟨gs, -, hgs⟩
        · exact h.2 t ht
        · cases hgs
  | .any fs => by
      have h := tagFreeAll?_tags fs
      refine ⟨fun g hg => ?_, fun t ht => ?_⟩
      · obtain ⟨gs, hgs, -⟩ := Except.bind_eq_ok_iff.1 hg
        exact h.1 gs hgs
      · rcases Except.bind_eq_error_iff.1 ht with ht | ⟨gs, -, hgs⟩
        · exact h.2 t ht
        · cases hgs
  | .not f => by
      have h := tagFree?_tags f
      refine ⟨fun g hg => ?_, fun t ht => ?_⟩
      · obtain ⟨g', hg', -⟩ := Except.bind_eq_ok_iff.1 hg
        exact h.1 g' hg'
      · rcases Except.bind_eq_error_iff.1 ht with ht | ⟨g', -, hg'⟩
        · exact h.2 t ht
        · cases hg'

/-- What `tagFreeAll?` says about the tags of formulas. -/
theorem tagFreeAll?_tags : ∀ fs : List (Formula τ),
    (∀ gs, tagFreeAll? fs = .ok gs → tagsAll fs = []) ∧
      ∀ t, tagFreeAll? fs = .error t → (tagsAll fs).head? = some t
  | [] => by simp [tagFreeAll?, tagsAll]
  | f :: fs => by
      have hf := tagFree?_tags f
      have hfs := tagFreeAll?_tags fs
      refine ⟨fun gs hgs => ?_, fun t ht => ?_⟩
      · obtain ⟨g, hg, hgs⟩ := Except.bind_eq_ok_iff.1 hgs
        obtain ⟨gs, hgs, -⟩ := Except.bind_eq_ok_iff.1 hgs
        simp [tagsAll, hf.1 g hg, hfs.1 gs hgs]
      · rcases Except.bind_eq_error_iff.1 ht with ht | ⟨g, hg, ht⟩
        · simp [tagsAll, hf.2 t ht]
        · rcases Except.bind_eq_error_iff.1 ht with ht | ⟨gs, -, hgs⟩
          · simp [tagsAll, hf.1 g hg, hfs.2 t ht]
          · cases hgs

end

theorem exists_tagFree?_iff (f : Formula τ) : (∃ g, f.tagFree? = .ok g) ↔ f.tags = [] := by
  constructor
  · rintro ⟨g, hg⟩
    exact (tagFree?_tags f).1 g hg
  · intro h
    cases hf : f.tagFree? with
    | ok g => exact ⟨g, rfl⟩
    | error t =>
        have ht := (tagFree?_tags f).2 t hf
        simp [h] at ht

/-- The tag that stands in the way of a formula without tags is its first. -/
theorem tagFree?_eq_error {f : Formula τ} {t : τ} (h : f.tagFree? = .error t) :
    f.tags.head? = some t :=
  (tagFree?_tags f).2 t h

/-- A formula has the tags of its expression. -/
theorem tags_of_ofExpression? {e : Expression} {f : Formula Name}
    (h : ofExpression? e = .ok f) : f.tags.map (fun t => TagName.mk t.text) = e.tags := by
  induction e generalizing f with
  | leaf c =>
      rcases ofExpression?_leaf.1 h with ⟨t, n, rfl, -, rfl⟩ | ⟨t, n, rfl, hn, rfl⟩
      · rfl
      · simp [tags, Expression.tags, Expression.leaves, Condition.tag?, text_of_validName hn]
  | and l r ihl ihr =>
      obtain ⟨a, b, ha, hb, rfl⟩ := ofExpression?_and.1 h
      simp [tags, tagsAll_append, ihl ha, ihr hb]
  | or l r ihl ihr =>
      obtain ⟨a, b, ha, hb, rfl⟩ := ofExpression?_or.1 h
      simp [tags, tagsAll_append, ihl ha, ihr hb]
  | not e ih =>
      obtain ⟨a, ha, rfl⟩ := ofExpression?_not.1 h
      simpa [tags] using ih ha

/-! ### Clauses -/

/-- All ways to join a clause of the one list to a clause of the other. -/
def joined (as bs : List Clause) : List Clause := as.flatMap fun a => bs.map (a ++ ·)

theorem mem_joined {as bs : List Clause} {c : Clause} :
    c ∈ joined as bs ↔ ∃ a ∈ as, ∃ b ∈ bs, a ++ b = c := by
  simp [joined]

theorem joined_assoc (as bs cs : List Clause) :
    joined (joined as bs) cs = joined as (joined bs cs) := by
  simp [joined, List.flatMap_assoc, List.flatMap_map, List.map_flatMap, Function.comp_def]

/-- The clauses of a formula as an operand of a conjunction, where a disjunction without tags is
one operand. -/
def choices (f : Formula Name) : List Clause :=
  match tagFreeBranches? f with
  | some branches => [[Operand.any branches]]
  | none => clauses f

/-- A formula counts as one operand only if it is a disjunction without tags. -/
theorem choices_cases (f : Formula Name) :
    choices f = clauses f ∨
      ∃ fs gs, f = .any fs ∧ tagFreeAll? fs = .ok gs ∧ choices f = [[.any gs]] := by
  cases f with
  | any fs =>
      cases h : tagFreeAll? fs with
      | ok gs =>
          refine Or.inr ⟨fs, gs, rfl, h, ?_⟩
          simp [choices, tagFreeBranches?, h, Except.toOption]
      | error t => exact Or.inl (by simp [choices, tagFreeBranches?, h, Except.toOption])
  | _ => exact Or.inl rfl

theorem clausesOfAll_cons (f : Formula Name) (fs : List (Formula Name)) :
    clausesOfAll (f :: fs) = joined (choices f) (clausesOfAll fs) := rfl

theorem clausesOfAll_append (fs gs : List (Formula Name)) :
    clausesOfAll (fs ++ gs) = joined (clausesOfAll fs) (clausesOfAll gs) := by
  induction fs with
  | nil => simp [clausesOfAll, joined]
  | cons f fs ih => rw [List.cons_append, clausesOfAll_cons, ih, clausesOfAll_cons, joined_assoc]

theorem clausesOfAny_append (fs gs : List (Formula Name)) :
    clausesOfAny (fs ++ gs) = clausesOfAny fs ++ clausesOfAny gs := by
  induction fs with
  | nil => rfl
  | cons f fs ih => simp [clausesOfAny, ih]

theorem clausesOfAll_operands (f : Formula Name) : clausesOfAll f.operands = choices f := by
  have single : clausesOfAll [f] = choices f := by
    rw [clausesOfAll_cons]
    simp [clausesOfAll, joined]
  cases f with
  | all fs => rfl
  | _ => exact single

theorem clausesOfAny_branches (f : Formula Name) : clausesOfAny f.branches = clauses f := by
  cases f <;> simp [branches, clausesOfAny, clauses]

/-- The clauses of a conjunction of two operands. -/
theorem clauses_and (a b : Formula Name) :
    clauses (.all (a.operands ++ b.operands)) = joined (choices a) (choices b) := by
  rw [clauses, clausesOfAll_append, clausesOfAll_operands, clausesOfAll_operands]

/-- The clauses of a disjunction of two branches. -/
theorem clauses_or (a b : Formula Name) :
    clauses (.any (a.branches ++ b.branches)) = clauses a ++ clauses b := by
  rw [clauses, clausesOfAny_append, clausesOfAny_branches, clausesOfAny_branches]

theorem choices_ne_nil_of {f : Formula Name} (h : clauses f ≠ []) : choices f ≠ [] := by
  rcases choices_cases f with hc | ⟨fs, gs, -, -, hc⟩
  · rwa [hc]
  · simp [hc]

/-- Every expression has a clause. -/
theorem clauses_ne_nil {e : Expression} {f : Formula Name} (h : ofExpression? e = .ok f) :
    clauses f ≠ [] := by
  induction e generalizing f with
  | leaf c =>
      rcases ofExpression?_leaf.1 h with ⟨t, n, -, -, rfl⟩ | ⟨t, n, -, -, rfl⟩
      · simp [clauses]
      · simp [clauses]
  | and l r ihl ihr =>
      obtain ⟨a, b, ha, hb, rfl⟩ := ofExpression?_and.1 h
      obtain ⟨x, hx⟩ := List.exists_mem_of_ne_nil _ (choices_ne_nil_of (ihl ha))
      obtain ⟨y, hy⟩ := List.exists_mem_of_ne_nil _ (choices_ne_nil_of (ihr hb))
      rw [clauses_and]
      exact List.ne_nil_of_mem (mem_joined.2 ⟨x, hx, y, hy, rfl⟩)
  | or l r ihl ihr =>
      obtain ⟨a, b, ha, hb, rfl⟩ := ofExpression?_or.1 h
      simp [clauses_or, ihl ha]
  | not e ih =>
      obtain ⟨a, ha, rfl⟩ := ofExpression?_not.1 h
      simp [clauses]

theorem choices_ne_nil {e : Expression} {f : Formula Name} (h : ofExpression? e = .ok f) :
    choices f ≠ [] :=
  choices_ne_nil_of (clauses_ne_nil h)

end Formula

/-! ### Tags of clauses -/

/-- The tag that an operand fixes. -/
def Operand.tag? : Operand → Option Name
  | .tag t => some t
  | _ => none

/-- The tags of an operand, also those below its negation. -/
def Operand.tags : Operand → List Name
  | .tag t => [t]
  | .not f => f.tags
  | _ => []

/-- The tags that a clause fixes. -/
def Clause.fixed (c : Clause) : List Name := c.filterMap Operand.tag?

/-- The tags of a clause, also those below its negations. -/
def Clause.tags (c : Clause) : List Name := c.flatMap Operand.tags

namespace Clause

@[simp] theorem fixed_append (a b : Clause) : fixed (a ++ b) = fixed a ++ fixed b :=
  List.filterMap_append

@[simp] theorem tags_append (a b : Clause) : tags (a ++ b) = tags a ++ tags b :=
  List.flatMap_append

theorem mem_tags_of_mem_fixed {c : Clause} {t : Name} (h : t ∈ c.fixed) : t ∈ c.tags := by
  obtain ⟨o, ho, ht⟩ := List.mem_filterMap.1 h
  refine List.mem_flatMap.2 ⟨o, ho, ?_⟩
  cases o <;> simp_all [Operand.tag?, Operand.tags]

end Clause

namespace Formula

mutual

theorem tags_ofTagFree : ∀ f : Formula Empty, (ofTagFree f : Formula Name).tags = []
  | .test _ => rfl
  | .all fs => tagsAll_ofTagFreeAll fs
  | .any fs => tagsAll_ofTagFreeAll fs
  | .not f => tags_ofTagFree f

theorem tagsAll_ofTagFreeAll : ∀ fs : List (Formula Empty),
    tagsAll (ofTagFreeAll fs : List (Formula Name)) = []
  | [] => rfl
  | f :: fs => by
      rw [ofTagFreeAll, tagsAll, tags_ofTagFree f, tagsAll_ofTagFreeAll fs]
      rfl

end

theorem tags_toFormula (o : Operand) : o.toFormula.tags = o.tags := by
  cases o <;> simp [Operand.toFormula, tags, Operand.tags, tagsAll_ofTagFreeAll]

theorem tagsAll_map_toFormula (c : Clause) : tagsAll (c.map Operand.toFormula) = c.tags := by
  induction c with
  | nil => rfl
  | cons o c ih => simp [tagsAll, tags_toFormula, ih, Clause.tags]

theorem tags_clause_toFormula (c : Clause) : c.toFormula.tags = c.tags := by
  rw [← tagsAll_map_toFormula]
  unfold Clause.toFormula
  split
  next f h => simp [h, tagsAll]
  next => rfl

/-- The formula of clauses has their tags. -/
theorem tags_ofClauses (cs : List Clause) : (ofClauses cs).tags = cs.flatMap Clause.tags := by
  have all : tagsAll (cs.map Clause.toFormula) = cs.flatMap Clause.tags := by
    induction cs with
    | nil => rfl
    | cons c cs ih => simp [tagsAll, tags_clause_toFormula, ih]
  rw [← all]
  unfold ofClauses
  split
  next f h => simp [h, tagsAll]
  next => rfl

theorem exists_mem_joined_tags {as bs : List Clause} (ha : as ≠ []) (hb : bs ≠ []) {t : Name} :
    (∃ c ∈ joined as bs, t ∈ c.tags) ↔ (∃ a ∈ as, t ∈ a.tags) ∨ ∃ b ∈ bs, t ∈ b.tags := by
  obtain ⟨x, hx⟩ := List.exists_mem_of_ne_nil _ ha
  obtain ⟨y, hy⟩ := List.exists_mem_of_ne_nil _ hb
  constructor
  · rintro ⟨c, hc, ht⟩
    obtain ⟨a, ha, b, hb, rfl⟩ := mem_joined.1 hc
    rw [Clause.tags_append, List.mem_append] at ht
    exact ht.imp (fun ht => ⟨a, ha, ht⟩) fun ht => ⟨b, hb, ht⟩
  · rintro (⟨a, ha, ht⟩ | ⟨b, hb, ht⟩)
    · exact ⟨a ++ y, mem_joined.2 ⟨a, ha, y, hy, rfl⟩, by simp [ht]⟩
    · exact ⟨x ++ b, mem_joined.2 ⟨x, hx, b, hb, rfl⟩, by simp [ht]⟩

/-- Kept whole or not, a formula has no tags but those of its clauses. -/
theorem exists_mem_choices_tags {f : Formula Name} {t : Name}
    (h : t ∈ f.tags ↔ ∃ c ∈ clauses f, t ∈ c.tags) :
    (∃ c ∈ choices f, t ∈ c.tags) ↔ t ∈ f.tags := by
  rcases choices_cases f with hc | ⟨fs, gs, rfl, hgs, hc⟩
  · rw [hc, h]
  · rw [hc, tags, (tagFreeAll?_tags fs).1 gs hgs]
    simp [Clause.tags, Operand.tags]

/-- **The tags of a formula are those of its clauses.** -/
theorem mem_tags_iff {e : Expression} {f : Formula Name} (h : ofExpression? e = .ok f) {t : Name} :
    t ∈ f.tags ↔ ∃ c ∈ clauses f, t ∈ c.tags := by
  induction e generalizing f with
  | leaf c =>
      rcases ofExpression?_leaf.1 h with ⟨_, n, -, -, rfl⟩ | ⟨_, n, -, -, rfl⟩
      · simp [clauses, tags, Clause.tags, Operand.tags]
      · simp [clauses, tags, Clause.tags, Operand.tags]
  | and l r ihl ihr =>
      obtain ⟨a, b, ha, hb, rfl⟩ := ofExpression?_and.1 h
      rw [clauses_and, exists_mem_joined_tags (choices_ne_nil ha) (choices_ne_nil hb),
        exists_mem_choices_tags (ihl ha), exists_mem_choices_tags (ihr hb), tags, tagsAll_append,
        tagsAll_operands, tagsAll_operands, List.mem_append]
  | or l r ihl ihr =>
      obtain ⟨a, b, ha, hb, rfl⟩ := ofExpression?_or.1 h
      rw [clauses_or, tags, tagsAll_append, tagsAll_branches, tagsAll_branches, List.mem_append,
        ihl ha, ihr hb]
      simp only [List.mem_append, or_and_right, exists_or]
  | not e ih =>
      obtain ⟨a, ha, rfl⟩ := ofExpression?_not.1 h
      rw [tags, ih ha]
      simp [clauses, Clause.tags, Operand.tags, tags_ofClauses]

end Formula

/-! ### Selectors -/

namespace Expression

/-- A selector is a link, a tag or comes from the formula of the expression. -/
theorem selector_cases {e : Expression} {s : Selector} (h : e.selector = .ok s) :
    (∃ text part, e = .leaf (.linkText text part) ∧ s = .linkText text part) ∨
      (∃ t n, e = .leaf (.tag t) ∧ Formula.validName .tag t.text = .ok n ∧ s = .tagName n) ∨
      ∃ f, Formula.ofExpression? e = .ok f ∧ f.selector = .ok s := by
  match e with
  | .leaf (.linkText text part) =>
      cases h
      exact .inl ⟨text, part, rfl, rfl⟩
  | .leaf (.tag t) =>
      obtain ⟨n, hn, h⟩ := Except.bind_eq_ok_iff.1 h
      cases h
      exact .inr (.inl ⟨t, n, rfl, hn, rfl⟩)
  | .leaf (.test t) => exact .inr (.inr (Except.bind_eq_ok_iff.1 h))
  | .and l r => exact .inr (.inr (Except.bind_eq_ok_iff.1 h))
  | .or l r => exact .inr (.inr (Except.bind_eq_ok_iff.1 h))
  | .not inner => exact .inr (.inr (Except.bind_eq_ok_iff.1 h))

end Expression

end WebDriverClient.Locator
