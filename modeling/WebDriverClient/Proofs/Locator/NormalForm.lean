/-
**Distributed formulas.**

Formulas of expressions are flat: no conjunction has an operand that is a conjunction, no
disjunction has a branch that is one, and both have two members or more.  Distribution keeps them
flat, and moves every disjunction that holds a tag out of the conjunctions above it.  What it gives
has nothing left to distribute: its clauses are the ones that can be read off it.

Main definitions:

* `Locator.Formula.IsFlat`, `Locator.Formula.IsDistributed` — the forms of formulas before and after
  distribution;
* `Locator.Formula.Proper`, `Locator.Formula.Conjunctive` — clauses that may stand as branches of a
  disjunction;
* `Locator.Formula.Stays` — an operand of a conjunction that distribution leaves in place.

Main results:

* `Locator.Formula.isFlat_of_ofExpression?` — formulas of expressions are flat;
* `Locator.Formula.IsFlat.isDistributed_distributed` — **distribution brings them into normal
  form**, at every depth;
* `Locator.Formula.IsDistributed.clauses_eq` — what has been distributed has the clauses that it
  shows;
* `Locator.Formula.IsFlat.choices_distributed` — an operand may be distributed first.
-/

import Mathlib.Data.List.Basic
import WebDriverClient.Proofs.Locator.Truth

set_option autoImplicit false

namespace WebDriverClient.Locator

namespace Formula

/-! ### Forms of formulas -/

/-- Conjunctions and disjunctions have two operands or more, none of which is of their own kind. -/
inductive IsFlat : Formula Name → Prop
  | tag (t : Name) : IsFlat (.tag t)
  | test (t : Test Name) : IsFlat (.test t)
  | not {f : Formula Name} (h : IsFlat f) : IsFlat (.not f)
  | all {fs : List (Formula Name)} (two : 2 ≤ fs.length) (h : ∀ f ∈ fs, IsFlat f)
      (flat : ∀ f ∈ fs, ∀ gs, f ≠ .all gs) : IsFlat (.all fs)
  | any {fs : List (Formula Name)} (two : 2 ≤ fs.length) (h : ∀ f ∈ fs, IsFlat f)
      (flat : ∀ f ∈ fs, ∀ gs, f ≠ .any gs) : IsFlat (.any fs)

/-- Flat, and no operand of a conjunction is a disjunction that holds a tag. -/
inductive IsDistributed : Formula Name → Prop
  | tag (t : Name) : IsDistributed (.tag t)
  | test (t : Test Name) : IsDistributed (.test t)
  | not {f : Formula Name} (h : IsDistributed f) : IsDistributed (.not f)
  | all {fs : List (Formula Name)} (two : 2 ≤ fs.length) (h : ∀ f ∈ fs, IsDistributed f)
      (flat : ∀ f ∈ fs, ∀ gs, f ≠ .all gs) (plain : ∀ f ∈ fs, ∀ gs, f = .any gs → tagsAll gs = []) :
      IsDistributed (.all fs)
  | any {fs : List (Formula Name)} (two : 2 ≤ fs.length) (h : ∀ f ∈ fs, IsDistributed f)
      (flat : ∀ f ∈ fs, ∀ gs, f ≠ .any gs) : IsDistributed (.any fs)

theorem IsDistributed.isFlat {f : Formula Name} (h : f.IsDistributed) : f.IsFlat := by
  induction h with
  | tag t => exact .tag t
  | test t => exact .test t
  | not _ ih => exact .not ih
  | all two _ flat _ ih => exact .all two ih flat
  | any two _ flat ih => exact .any two ih flat

theorem tags_eq_nil_of_mem {fs : List (Formula Name)} (h : tagsAll fs = []) :
    ∀ f ∈ fs, f.tags = [] := by
  induction fs with
  | nil => simp
  | cons f fs ih =>
      rw [tagsAll, List.append_eq_nil_iff] at h
      exact List.forall_mem_cons.2 ⟨h.1, ih h.2⟩

/-- Where there are no tags there is nothing to distribute. -/
theorem IsFlat.isDistributed {f : Formula Name} (h : f.IsFlat) (free : f.tags = []) :
    f.IsDistributed := by
  induction h with
  | tag t => exact .tag t
  | test t => exact .test t
  | not _ ih => exact .not (ih free)
  | @all fs two _ flat ih =>
      have free := tags_eq_nil_of_mem free
      refine .all two (fun f hf => ih f hf (free f hf)) flat ?_
      rintro f hf gs rfl
      exact free _ hf
  | @any fs two _ flat ih =>
      have free := tags_eq_nil_of_mem free
      exact .any two (fun f hf => ih f hf (free f hf)) flat

theorem IsFlat.operands {f : Formula Name} (h : f.IsFlat) :
    f.operands ≠ [] ∧ ∀ g ∈ f.operands, g.IsFlat ∧ ∀ gs, g ≠ .all gs := by
  cases h with
  | all two h flat =>
      refine ⟨List.ne_nil_of_length_pos (Nat.lt_of_lt_of_le Nat.two_pos two), fun g hg => ?_⟩
      exact ⟨h g hg, flat g hg⟩
  | tag t => exact ⟨List.cons_ne_nil _ _, by simp [Formula.operands, IsFlat.tag]⟩
  | test t => exact ⟨List.cons_ne_nil _ _, by simp [Formula.operands, IsFlat.test]⟩
  | not h => exact ⟨List.cons_ne_nil _ _, by simp [Formula.operands, IsFlat.not h]⟩
  | any two h flat =>
      exact ⟨List.cons_ne_nil _ _, by simp [Formula.operands, IsFlat.any two h flat]⟩

theorem IsFlat.branches {f : Formula Name} (h : f.IsFlat) :
    f.branches ≠ [] ∧ ∀ g ∈ f.branches, g.IsFlat ∧ ∀ gs, g ≠ .any gs := by
  cases h with
  | any two h flat =>
      refine ⟨List.ne_nil_of_length_pos (Nat.lt_of_lt_of_le Nat.two_pos two), fun g hg => ?_⟩
      exact ⟨h g hg, flat g hg⟩
  | tag t => exact ⟨List.cons_ne_nil _ _, by simp [Formula.branches, IsFlat.tag]⟩
  | test t => exact ⟨List.cons_ne_nil _ _, by simp [Formula.branches, IsFlat.test]⟩
  | not h => exact ⟨List.cons_ne_nil _ _, by simp [Formula.branches, IsFlat.not h]⟩
  | all two h flat =>
      exact ⟨List.cons_ne_nil _ _, by simp [Formula.branches, IsFlat.all two h flat]⟩

/-- Formulas of expressions are flat. -/
theorem isFlat_of_ofExpression? {e : Expression} {f : Formula Name} (h : ofExpression? e = .ok f) :
    f.IsFlat := by
  -- Two lists that are not empty have two members together.
  have two {as bs : List (Formula Name)} (ha : as ≠ []) (hb : bs ≠ []) :
      2 ≤ (as ++ bs).length := by
    have ha := List.length_pos_iff.2 ha
    have hb := List.length_pos_iff.2 hb
    rw [List.length_append]
    omega
  induction e generalizing f with
  | leaf c =>
      rcases ofExpression?_leaf.1 h with ⟨t, n, -, -, rfl⟩ | ⟨t, n, -, -, rfl⟩
      · exact .test n
      · exact .tag n
  | and l r ihl ihr =>
      obtain ⟨a, b, ha, hb, rfl⟩ := ofExpression?_and.1 h
      obtain ⟨hna, fa⟩ := (ihl ha).operands
      obtain ⟨hnb, fb⟩ := (ihr hb).operands
      have members := List.forall_mem_append.2 ⟨fa, fb⟩
      exact .all (two hna hnb) (fun g hg => (members g hg).1) fun g hg => (members g hg).2
  | or l r ihl ihr =>
      obtain ⟨a, b, ha, hb, rfl⟩ := ofExpression?_or.1 h
      obtain ⟨hna, fa⟩ := (ihl ha).branches
      obtain ⟨hnb, fb⟩ := (ihr hb).branches
      have members := List.forall_mem_append.2 ⟨fa, fb⟩
      exact .any (two hna hnb) (fun g hg => (members g hg).1) fun g hg => (members g hg).2
  | not e ih =>
      obtain ⟨a, ha, rfl⟩ := ofExpression?_not.1 h
      exact .not (ih ha)

/-! ### Formulas put together -/

variable {τ : Type}

/-- One formula for several that must all hold. -/
def allOf : List (Formula τ) → Formula τ
  | [f] => f
  | fs => .all fs

/-- One formula for several of which one must hold. -/
def anyOf : List (Formula τ) → Formula τ
  | [f] => f
  | fs => .any fs

theorem allOf_of_two {fs : List (Formula τ)} (h : 2 ≤ fs.length) : allOf fs = .all fs := by
  match fs, h with
  | _ :: _ :: _, _ => rfl

theorem anyOf_of_two {fs : List (Formula τ)} (h : 2 ≤ fs.length) : anyOf fs = .any fs := by
  match fs, h with
  | _ :: _ :: _, _ => rfl

theorem branches_of_ne_any {f : Formula Name} (h : ∀ fs, f ≠ .any fs) : f.branches = [f] := by
  cases f with
  | any fs => exact absurd rfl (h fs)
  | _ => rfl

theorem operands_of_ne_all {f : Formula Name} (h : ∀ fs, f ≠ .all fs) : f.operands = [f] := by
  cases f with
  | all fs => exact absurd rfl (h fs)
  | _ => rfl

theorem flatMap_operands {fs : List (Formula Name)} (h : ∀ f ∈ fs, ∀ gs, f ≠ .all gs) :
    fs.flatMap operands = fs := by
  induction fs with
  | nil => rfl
  | cons f fs ih =>
      obtain ⟨hf, hfs⟩ := List.forall_mem_cons.1 h
      rw [List.flatMap_cons, operands_of_ne_all hf, ih hfs]
      rfl

theorem flatMap_branches {fs : List (Formula Name)} (h : ∀ f ∈ fs, ∀ gs, f ≠ .any gs) :
    fs.flatMap branches = fs := by
  induction fs with
  | nil => rfl
  | cons f fs ih =>
      obtain ⟨hf, hfs⟩ := List.forall_mem_cons.1 h
      rw [List.flatMap_cons, branches_of_ne_any hf, ih hfs]
      rfl

theorem toFormula_eq (c : Clause) : c.toFormula = allOf (c.map Operand.toFormula) := by
  unfold Clause.toFormula
  generalize c.map Operand.toFormula = fs
  rcases fs with _ | ⟨f, _ | ⟨g, fs⟩⟩ <;> rfl

theorem ofClauses_eq (cs : List Clause) : ofClauses cs = anyOf (cs.map Clause.toFormula) := by
  unfold ofClauses
  generalize cs.map Clause.toFormula = fs
  rcases fs with _ | ⟨f, _ | ⟨g, fs⟩⟩ <;> rfl

/-! ### Formulas without tags -/

mutual

theorem tagFree?_ofTagFree : ∀ f : Formula Empty, (ofTagFree f : Formula τ).tagFree? = .ok f
  | .test _ => rfl
  | .all fs => by rw [ofTagFree, tagFree?, tagFreeAll?_ofTagFreeAll fs]; rfl
  | .any fs => by rw [ofTagFree, tagFree?, tagFreeAll?_ofTagFreeAll fs]; rfl
  | .not f => by rw [ofTagFree, tagFree?, tagFree?_ofTagFree f]; rfl

theorem tagFreeAll?_ofTagFreeAll : ∀ fs : List (Formula Empty),
    tagFreeAll? (ofTagFreeAll fs : List (Formula τ)) = .ok fs
  | [] => rfl
  | f :: fs => by
      rw [ofTagFreeAll, tagFreeAll?, tagFree?_ofTagFree f, tagFreeAll?_ofTagFreeAll fs]
      rfl

end

mutual

theorem ofTagFree_of_tagFree? : ∀ {f : Formula τ} {g : Formula Empty}, f.tagFree? = .ok g →
    ofTagFree g = f
  | .tag t, _, h => by cases h
  | .test t, _, h => by
      cases h
      rfl
  | .all fs, _, h => by
      obtain ⟨gs, hgs, h⟩ := Except.bind_eq_ok_iff.1 h
      cases h
      rw [ofTagFree, ofTagFreeAll_of_tagFreeAll? hgs]
  | .any fs, _, h => by
      obtain ⟨gs, hgs, h⟩ := Except.bind_eq_ok_iff.1 h
      cases h
      rw [ofTagFree, ofTagFreeAll_of_tagFreeAll? hgs]
  | .not f, _, h => by
      obtain ⟨g, hg, h⟩ := Except.bind_eq_ok_iff.1 h
      cases h
      rw [ofTagFree, ofTagFree_of_tagFree? hg]

theorem ofTagFreeAll_of_tagFreeAll? : ∀ {fs : List (Formula τ)} {gs : List (Formula Empty)},
    tagFreeAll? fs = .ok gs → ofTagFreeAll gs = fs
  | [], _, h => by
      cases h
      rfl
  | f :: fs, _, h => by
      obtain ⟨g, hg, h⟩ := Except.bind_eq_ok_iff.1 h
      obtain ⟨gs, hgs, h⟩ := Except.bind_eq_ok_iff.1 h
      cases h
      rw [ofTagFreeAll, ofTagFree_of_tagFree? hg, ofTagFreeAll_of_tagFreeAll? hgs]

end

theorem operand_toFormula_injective : Function.Injective Operand.toFormula := by
  intro o p h
  cases o <;> cases p <;> simp_all [Operand.toFormula]
  next fs gs =>
    have same := tagFreeAll?_ofTagFreeAll (τ := Name) fs
    rw [h, tagFreeAll?_ofTagFreeAll] at same
    exact (Except.ok.inj same).symm

theorem operand_toFormula_ne_all (o : Operand) (fs : List (Formula Name)) :
    o.toFormula ≠ .all fs := by
  cases o <;> simp [Operand.toFormula]

theorem tagsAll_of_operand_toFormula {o : Operand} {fs : List (Formula Name)}
    (h : o.toFormula = .any fs) : tagsAll fs = [] := by
  cases o with
  | any gs =>
      obtain rfl := Formula.any.inj h
      exact tagsAll_ofTagFreeAll gs
  | _ => cases h

theorem clause_toFormula_cases (c : Clause) :
    (∃ o, c = [o] ∧ c.toFormula = o.toFormula) ∨
      c.length ≠ 1 ∧ c.toFormula = .all (c.map Operand.toFormula) := by
  rw [toFormula_eq]
  rcases c with _ | ⟨o, _ | ⟨o', c⟩⟩
  · exact .inr ⟨by simp, rfl⟩
  · exact .inl ⟨o, rfl, rfl⟩
  · exact .inr ⟨by simp, rfl⟩

theorem operands_toFormula (c : Clause) : c.toFormula.operands = c.map Operand.toFormula := by
  rcases clause_toFormula_cases c with ⟨o, rfl, heq⟩ | ⟨-, heq⟩
  · rw [heq, operands_of_ne_all (operand_toFormula_ne_all o)]
    rfl
  · rw [heq]
    rfl

/-- A clause can be read off its formula. -/
theorem toFormula_injective : Function.Injective Clause.toFormula := by
  intro c d h
  have h := congrArg operands h
  rw [operands_toFormula, operands_toFormula] at h
  exact (List.map_inj_right @operand_toFormula_injective).1 h

/-! ### The clauses of a flat formula -/

/-- Clauses that may stand as branches of a disjunction. -/
structure Proper (cs : List Clause) : Prop where
  ne_nil : cs ≠ []
  /-- None asks nothing. -/
  asks : ∀ c ∈ cs, c ≠ []
  /-- What they ask has been distributed. -/
  distributed : ∀ c ∈ cs, ∀ o ∈ c, o.toFormula.IsDistributed

/-- No clause stands for a disjunction. -/
def Conjunctive (cs : List Clause) : Prop := ∀ c ∈ cs, ∀ fs, c ≠ [.any fs]

theorem Proper.joined {as bs : List Clause} (ha : Proper as) (hb : Proper bs) :
    Proper (joined as bs) where
  ne_nil := by
    obtain ⟨a, ha⟩ := List.exists_mem_of_ne_nil _ ha.ne_nil
    obtain ⟨b, hb⟩ := List.exists_mem_of_ne_nil _ hb.ne_nil
    exact List.ne_nil_of_mem (mem_joined.2 ⟨a, ha, b, hb, rfl⟩)
  asks := by
    intro c hc
    obtain ⟨a, hac, b, -, rfl⟩ := mem_joined.1 hc
    exact List.append_ne_nil_of_left_ne_nil (ha.asks a hac) b
  distributed := by
    intro c hc
    obtain ⟨a, hac, b, hbc, rfl⟩ := mem_joined.1 hc
    exact List.forall_mem_append.2 ⟨ha.distributed a hac, hb.distributed b hbc⟩

/-- Clauses joined have two operands or more. -/
theorem conjunctive_joined {as bs : List Clause} (ha : Proper as) (hb : Proper bs) :
    Conjunctive (joined as bs) := by
  rintro c hc fs rfl
  obtain ⟨a, hac, b, hbc, h⟩ := mem_joined.1 hc
  have ha := List.length_pos_iff.2 (ha.asks a hac)
  have hb := List.length_pos_iff.2 (hb.asks b hbc)
  have h := congrArg List.length h
  rw [List.length_append, List.length_singleton] at h
  omega

theorem Proper.isDistributed {cs : List Clause} (h : Proper cs) {c : Clause} (hc : c ∈ cs) :
    c.toFormula.IsDistributed := by
  rcases clause_toFormula_cases c with ⟨o, rfl, heq⟩ | ⟨one, heq⟩
  · rw [heq]
    exact h.distributed _ hc o List.mem_cons_self
  · rw [heq]
    refine .all ?_ (List.forall_mem_map.2 (h.distributed c hc)) ?_ ?_
    · have := List.length_pos_iff.2 (h.asks c hc)
      rw [List.length_map]
      omega
    · exact List.forall_mem_map.2 fun o _ => operand_toFormula_ne_all o
    · exact List.forall_mem_map.2 fun o _ gs => tagsAll_of_operand_toFormula

theorem Conjunctive.toFormula_ne_any {cs : List Clause} (h : Conjunctive cs) {c : Clause}
    (hc : c ∈ cs) (fs : List (Formula Name)) : c.toFormula ≠ .any fs := by
  rcases clause_toFormula_cases c with ⟨o, rfl, heq⟩ | ⟨-, heq⟩
  · rw [heq]
    cases o with
    | any gs => exact absurd rfl (h _ hc gs)
    | _ => simp [Operand.toFormula]
  · simp [heq]

/-- The branches of the formula of clauses are the formulas of the clauses. -/
theorem branches_ofClauses {cs : List Clause} (h : Conjunctive cs) :
    (ofClauses cs).branches = cs.map Clause.toFormula := by
  rw [ofClauses_eq]
  rcases cs with _ | ⟨c, _ | ⟨c', cs⟩⟩
  · rfl
  · exact branches_of_ne_any (h.toFormula_ne_any List.mem_cons_self)
  · rfl

theorem isDistributed_ofClauses {cs : List Clause} (h : Proper cs) (hc : Conjunctive cs) :
    (ofClauses cs).IsDistributed := by
  rw [ofClauses_eq]
  rcases hcs : cs with _ | ⟨c, _ | ⟨c', cs'⟩⟩
  · exact absurd hcs h.ne_nil
  · exact h.isDistributed (hcs ▸ List.mem_cons_self)
  · rw [← hcs, anyOf_of_two (by simp [hcs])]
    refine .any (by simp [hcs]) (List.forall_mem_map.2 fun c hc => h.isDistributed hc) ?_
    exact List.forall_mem_map.2 fun c hcs => hc.toFormula_ne_any hcs

theorem clausesOfAny_eq (fs : List (Formula Name)) : clausesOfAny fs = fs.flatMap clauses := by
  induction fs with
  | nil => rfl
  | cons f fs ih => rw [clausesOfAny, ih, List.flatMap_cons]

theorem mem_clausesOfAny {fs : List (Formula Name)} {c : Clause} :
    c ∈ clausesOfAny fs ↔ ∃ f ∈ fs, c ∈ clauses f := by
  rw [clausesOfAny_eq, List.mem_flatMap]

theorem proper_clausesOfAll {fs : List (Formula Name)} (hne : fs ≠ [])
    (h : ∀ f ∈ fs, Proper (choices f)) : Proper (clausesOfAll fs) := by
  induction fs with
  | nil => exact absurd rfl hne
  | cons f fs ih =>
      obtain ⟨hf, hfs⟩ := List.forall_mem_cons.1 h
      rcases fs with _ | ⟨g, fs⟩
      · rw [clausesOfAll_cons]
        simpa [clausesOfAll, Formula.joined] using hf
      · exact hf.joined (ih (List.cons_ne_nil g fs) hfs)

theorem conjunctive_clausesOfAll {fs : List (Formula Name)} (two : 2 ≤ fs.length)
    (h : ∀ f ∈ fs, Proper (choices f)) : Conjunctive (clausesOfAll fs) := by
  match fs, two with
  | f :: g :: fs, _ =>
      obtain ⟨hf, hfs⟩ := List.forall_mem_cons.1 h
      exact conjunctive_joined hf (proper_clausesOfAll (List.cons_ne_nil g fs) hfs)

theorem proper_singleton {o : Operand} (h : o.toFormula.IsDistributed) : Proper [[o]] where
  ne_nil := List.cons_ne_nil _ _
  asks := by simp
  distributed := by simpa using h

theorem IsFlat.proper_choices {f : Formula Name} (hf : f.IsFlat) (h : Proper (clauses f)) :
    Proper (choices f) := by
  rcases choices_cases f with hc | ⟨fs, gs, rfl, hgs, hc⟩
  · rwa [hc]
  · rw [hc]
    apply proper_singleton
    rw [Operand.toFormula, ofTagFreeAll_of_tagFreeAll? hgs]
    exact hf.isDistributed ((tagFreeAll?_tags fs).1 gs hgs)

/-- The clauses of a flat formula may be put together again. -/
theorem IsFlat.proper_clauses {f : Formula Name} (h : f.IsFlat) :
    Proper (clauses f) ∧ Conjunctive (clauses f) := by
  induction h with
  | tag t => exact ⟨proper_singleton (.tag t), by simp [Conjunctive, clauses]⟩
  | test t => exact ⟨proper_singleton (.test t), by simp [Conjunctive, clauses]⟩
  | not _ ih =>
      refine ⟨proper_singleton (.not ?_), by simp [Conjunctive, clauses]⟩
      exact isDistributed_ofClauses ih.1 ih.2
  | @all fs two h flat ih =>
      have hne : fs ≠ [] := List.ne_nil_of_length_pos (Nat.lt_of_lt_of_le Nat.two_pos two)
      have hchoices := fun f hf => (h f hf).proper_choices (ih f hf).1
      exact ⟨proper_clausesOfAll hne hchoices, conjunctive_clausesOfAll two hchoices⟩
  | @any fs two h flat ih =>
      refine ⟨⟨?_, ?_, ?_⟩, ?_⟩
      · obtain ⟨f, hf⟩ := List.exists_mem_of_length_pos (Nat.lt_of_lt_of_le Nat.two_pos two)
        obtain ⟨c, hc⟩ := List.exists_mem_of_ne_nil _ (ih f hf).1.ne_nil
        exact List.ne_nil_of_mem (mem_clausesOfAny.2 ⟨f, hf, hc⟩)
      · intro c hc
        obtain ⟨f, hf, hc⟩ := mem_clausesOfAny.1 hc
        exact (ih f hf).1.asks c hc
      · intro c hc
        obtain ⟨f, hf, hc⟩ := mem_clausesOfAny.1 hc
        exact (ih f hf).1.distributed c hc
      · intro c hc
        obtain ⟨f, hf, hc⟩ := mem_clausesOfAny.1 hc
        exact (ih f hf).2 c hc

/-- Distribution brings flat formulas into normal form. -/
theorem IsFlat.isDistributed_distributed {f : Formula Name} (h : f.IsFlat) :
    f.distributed.IsDistributed :=
  isDistributed_ofClauses h.proper_clauses.1 h.proper_clauses.2

theorem exists_mem_clausesOfAll_tags {fs : List (Formula Name)} (h : ∀ f ∈ fs, Proper (choices f))
    (ht : ∀ f ∈ fs, ∀ t, t ∈ f.tags ↔ ∃ c ∈ clauses f, t ∈ c.tags) {t : Name} :
    (∃ c ∈ clausesOfAll fs, t ∈ c.tags) ↔ t ∈ tagsAll fs := by
  induction fs with
  | nil => simp [clausesOfAll, tagsAll, Clause.tags]
  | cons f fs ih =>
      obtain ⟨hf, hfs⟩ := List.forall_mem_cons.1 h
      obtain ⟨htf, htfs⟩ := List.forall_mem_cons.1 ht
      have rest : clausesOfAll fs ≠ [] := by
        rcases fs with _ | ⟨g, fs⟩
        · simp [clausesOfAll]
        · exact (proper_clausesOfAll (List.cons_ne_nil g fs) hfs).ne_nil
      rw [clausesOfAll_cons, exists_mem_joined_tags hf.ne_nil rest, exists_mem_choices_tags (htf t),
        ih hfs htfs, tagsAll, List.mem_append]

/-- No clause of a flat formula is lost, so neither is a tag. -/
theorem IsFlat.mem_tags_iff {f : Formula Name} (h : f.IsFlat) (t : Name) :
    t ∈ f.tags ↔ ∃ c ∈ clauses f, t ∈ c.tags := by
  induction h generalizing t with
  | tag _ => simp [clauses, tags, Clause.tags, Operand.tags]
  | test _ => simp [clauses, tags, Clause.tags, Operand.tags]
  | not _ ih => simp [clauses, tags, Clause.tags, Operand.tags, tags_ofClauses, ih]
  | all two h flat ih =>
      rw [tags, clauses]
      exact (exists_mem_clausesOfAll_tags
        (fun f hf => (h f hf).proper_choices (h f hf).proper_clauses.1) ih).symm
  | @any fs two h flat ih =>
      have mem (gs : List (Formula Name)) : t ∈ tagsAll gs ↔ ∃ g ∈ gs, t ∈ g.tags := by
        induction gs with
        | nil => simp [tagsAll]
        | cons g gs ihg => simp [tagsAll, ihg]
      rw [tags, mem, clauses]
      simp only [mem_clausesOfAny]
      constructor
      · rintro ⟨f, hf, htf⟩
        obtain ⟨c, hc, htc⟩ := (ih f hf t).1 htf
        exact ⟨c, ⟨f, hf, hc⟩, htc⟩
      · rintro ⟨c, ⟨f, hf, hc⟩, htc⟩
        exact ⟨f, hf, (ih f hf t).2 ⟨c, hc, htc⟩⟩

/-! ### The clauses of what has been distributed -/

theorem IsFlat.anyOf_branches {f : Formula Name} (h : f.IsFlat) : anyOf f.branches = f := by
  cases h with
  | any two _ _ => exact anyOf_of_two two
  | _ => rfl

/-- An operand of a conjunction that distribution leaves in place. -/
structure Stays (f : Formula Name) : Prop where
  /-- There is nothing to distribute in it. -/
  distributed : f.IsDistributed
  /-- It is not a conjunction itself. -/
  flat : ∀ fs, f ≠ .all fs
  /-- It is not a disjunction that holds a tag. -/
  plain : ∀ fs, f = .any fs → tagsAll fs = []

theorem choices_any {fs : List (Formula Name)} (h : tagsAll fs = []) :
    ∃ gs, tagFreeAll? fs = .ok gs ∧ choices (.any fs) = [[.any gs]] := by
  cases hfs : tagFreeAll? fs with
  | ok gs => exact ⟨gs, rfl, by simp [choices, tagFreeBranches?, hfs, Except.toOption]⟩
  | error t =>
      have := (tagFreeAll?_tags fs).2 t hfs
      simp [h] at this

theorem choices_of_ne_any {f : Formula Name} (h : ∀ fs, f ≠ .any fs) : choices f = clauses f := by
  rcases choices_cases f with hc | ⟨fs, -, rfl, -⟩
  · exact hc
  · exact absurd rfl (h fs)

/-- What stays makes one operand of a clause. -/
theorem Stays.choices_eq {f : Formula Name} (h : f.Stays)
    (hc : (clauses f).map Clause.toFormula = f.branches) :
    ∃ o, choices f = [[o]] ∧ o.toFormula = f := by
  by_cases hany : ∃ fs, f = .any fs
  · obtain ⟨fs, rfl⟩ := hany
    obtain ⟨gs, hgs, hch⟩ := choices_any (h.plain fs rfl)
    refine ⟨.any gs, hch, ?_⟩
    rw [Operand.toFormula, ofTagFreeAll_of_tagFreeAll? hgs]
  · have hany := not_exists.1 hany
    rw [branches_of_ne_any hany, List.map_eq_singleton_iff] at hc
    obtain ⟨c, hc, hcf⟩ := hc
    rcases clause_toFormula_cases c with ⟨o, rfl, ho⟩ | ⟨-, hall⟩
    · exact ⟨o, by rw [choices_of_ne_any hany, hc], by rw [← ho, hcf]⟩
    · exact absurd (hcf.symm.trans hall) (h.flat _)

theorem clausesOfAll_stays {fs : List (Formula Name)}
    (h : ∀ f ∈ fs, ∃ o : Operand, choices f = [[o]] ∧ o.toFormula = f) :
    ∃ c : Clause, clausesOfAll fs = [c] ∧ c.map Operand.toFormula = fs := by
  induction fs with
  | nil => exact ⟨[], rfl, rfl⟩
  | cons f fs ih =>
      obtain ⟨⟨o, hf, ho⟩, hfs⟩ := List.forall_mem_cons.1 h
      obtain ⟨c, hc, hcfs⟩ := ih hfs
      refine ⟨o :: c, ?_, by rw [List.map_cons, ho, hcfs]⟩
      rw [clausesOfAll_cons, hf, hc]
      rfl

/-- What has been distributed has the clauses that it shows. -/
theorem IsDistributed.clauses_eq {f : Formula Name} (h : f.IsDistributed) :
    (clauses f).map Clause.toFormula = f.branches := by
  induction h with
  | tag t => rfl
  | test t => rfl
  | @not f h ih =>
      rw [clauses, ofClauses_eq, ih, h.isFlat.anyOf_branches]
      rfl
  | @all fs two h flat plain ih =>
      obtain ⟨c, hc, hfs⟩ := clausesOfAll_stays fun f hf =>
        Stays.choices_eq ⟨h f hf, flat f hf, plain f hf⟩ (ih f hf)
      rw [clauses, hc, List.map_singleton, toFormula_eq, hfs, allOf_of_two two]
      rfl
  | @any fs two h flat ih =>
      rw [clauses, clausesOfAny_eq, List.map_flatMap]
      have shown : fs.flatMap (fun f => (clauses f).map Clause.toFormula) = fs.flatMap branches :=
        List.flatMap_congr ih
      rw [shown, flatMap_branches flat]
      rfl

theorem IsDistributed.distributed_eq {f : Formula Name} (h : f.IsDistributed) :
    f.distributed = f := by
  rw [Formula.distributed, ofClauses_eq, h.clauses_eq, h.isFlat.anyOf_branches]

theorem Stays.choices_singleton {f : Formula Name} (h : f.Stays) :
    ∃ o, choices f = [[o]] ∧ o.toFormula = f :=
  h.choices_eq h.distributed.clauses_eq

/-- Distribution keeps the clauses. -/
theorem IsFlat.clauses_distributed {f : Formula Name} (h : f.IsFlat) :
    clauses f.distributed = clauses f := by
  have branches := h.isDistributed_distributed.clauses_eq
  rw [Formula.distributed, branches_ofClauses h.proper_clauses.2] at branches
  exact (List.map_inj_right @toFormula_injective).1 branches

/-- An operand of a conjunction may be distributed first. -/
theorem IsFlat.choices_distributed {f : Formula Name} (h : f.IsFlat) :
    choices f.distributed = choices f := by
  by_cases free : f.tags = []
  · rw [(h.isDistributed free).distributed_eq]
  · have tagged : f.distributed.tags ≠ [] := by
      obtain ⟨t, ht⟩ := List.exists_mem_of_ne_nil _ free
      obtain ⟨c, hc, htc⟩ := (h.mem_tags_iff t).1 ht
      rw [Formula.distributed, tags_ofClauses]
      exact List.ne_nil_of_mem (List.mem_flatMap.2 ⟨c, hc, htc⟩)
    have kept {g : Formula Name} (hg : g.tags ≠ []) : choices g = clauses g := by
      rcases choices_cases g with hc | ⟨fs, gs, rfl, hgs, -⟩
      · exact hc
      · exact absurd ((tagFreeAll?_tags fs).1 gs hgs) hg
    rw [kept tagged, kept free, h.clauses_distributed]

/-- So may all of them. -/
theorem clausesOfAll_distributed {fs : List (Formula Name)} (h : ∀ f ∈ fs, f.IsFlat) :
    clausesOfAll (fs.map Formula.distributed) = clausesOfAll fs := by
  induction fs with
  | nil => rfl
  | cons f fs ih =>
      obtain ⟨hf, hfs⟩ := List.forall_mem_cons.1 h
      rw [List.map_cons, clausesOfAll_cons, hf.choices_distributed, ih hfs, clausesOfAll_cons]

end Formula

end WebDriverClient.Locator
