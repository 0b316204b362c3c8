/-
**Distribution step by step.**

`Locator.Formula.clauses` reads the clauses of a formula off its structure.  The rule that it stands
for works on one disjunction at a time: in a conjunction whose operands have been distributed, the
first disjunction that holds a tag is the pivot, the other operands are copied into each of its
branches, and the whole is distributed again.  What is distributed again is larger than before, and
the rule comes to an end because no copy has a pivot among the operands up to where it was expanded.

Main definitions:

* `Locator.Formula.Pivot`, `Locator.Formula.pivot?` — the disjunction that is expanded next;
* `Locator.Formula.Distributes` — the rule: a derivation is a run of it that ends.

Main results:

* `Locator.Formula.Distributes.unique` — the rule leaves no choice;
* `Locator.Formula.distributes_all` — expanding one pivot after the other comes to an end;
* `Locator.Formula.distributes_expression_iff` — **the rule has one result, which is equivalent and
  in normal form**.
-/

import WebDriverClient.Proofs.Locator.NormalForm

set_option autoImplicit false

namespace WebDriverClient.Locator

namespace Formula

/-! ### The rule -/

/-- The branches of a disjunction that holds a tag. -/
def taggedBranches? : Formula Name → Option (List (Formula Name))
  | .any fs => if (tagsAll fs).isEmpty then none else some fs
  | _ => none

/-- The disjunction to expand among the operands of a conjunction. -/
structure Pivot where
  before : List (Formula Name)
  branches : List (Formula Name)
  after : List (Formula Name)

/-- The first operand that is a disjunction and holds a tag. -/
def pivot? : List (Formula Name) → Option Pivot
  | [] => none
  | f :: fs =>
    match taggedBranches? f with
    | some branches => some ⟨[], branches, fs⟩
    | none => (pivot? fs).map fun p => { p with before := f :: p.before }

/-- The conjunction of formulas, whose operands are those of any conjunction among them. -/
def conjunction (fs : List (Formula Name)) : Formula Name := allOf (fs.flatMap operands)

/-- The disjunction of formulas, whose branches are those of any disjunction among them. -/
def disjunction (fs : List (Formula Name)) : Formula Name := anyOf (fs.flatMap branches)

/-- The other operands are copied into each branch. -/
def Pivot.expanded (p : Pivot) : Formula Name :=
  disjunction (p.branches.map fun b => conjunction (p.before ++ b :: p.after))

/-- What distributing a formula gives.  Operands are distributed before their conjunction, and what
comes of expanding a pivot is distributed again. -/
inductive Distributes : Formula Name → Formula Name → Prop
  | tag (t : Name) : Distributes (.tag t) (.tag t)
  | test (t : Test Name) : Distributes (.test t) (.test t)
  | not {f g : Formula Name} (h : Distributes f g) : Distributes (.not f) (.not g)
  | any {fs gs : List (Formula Name)} (same : fs.length = gs.length)
      (h : ∀ p ∈ fs.zip gs, Distributes p.1 p.2) : Distributes (.any fs) (disjunction gs)
  | keep {fs gs : List (Formula Name)} (same : fs.length = gs.length)
      (h : ∀ p ∈ fs.zip gs, Distributes p.1 p.2) (stop : pivot? gs = none) :
      Distributes (.all fs) (conjunction gs)
  | expand {fs gs : List (Formula Name)} {p : Pivot} {g : Formula Name}
      (same : fs.length = gs.length) (h : ∀ q ∈ fs.zip gs, Distributes q.1 q.2)
      (next : pivot? gs = some p) (again : Distributes p.expanded g) : Distributes (.all fs) g

theorem eq_of_forall_zip {fs gs hs : List (Formula Name)} {R : Formula Name → Formula Name → Prop}
    (hgs : fs.length = gs.length) (hhs : fs.length = hs.length)
    (ih : ∀ p ∈ fs.zip gs, ∀ h, R p.1 h → p.2 = h) (h : ∀ p ∈ fs.zip hs, R p.1 p.2) :
    gs = hs := by
  induction fs generalizing gs hs with
  | nil =>
      rw [List.length_eq_zero_iff.1 hgs.symm, List.length_eq_zero_iff.1 hhs.symm]
  | cons f fs ihf =>
      match gs, hs, hgs, hhs with
      | g :: gs, k :: ks, hgs, hhs =>
          simp only [List.zip_cons_cons, List.forall_mem_cons] at ih h
          rw [ih.1 k h.1, ihf (Nat.succ.inj hgs) (Nat.succ.inj hhs) ih.2 h.2]

/-- The rule leaves no choice. -/
theorem Distributes.unique {f g g' : Formula Name} (h : Distributes f g) (h' : Distributes f g') :
    g = g' := by
  induction h generalizing g' with
  | tag t =>
      cases h'
      rfl
  | test t =>
      cases h'
      rfl
  | not _ ih =>
      cases h' with
      | not h' => rw [ih h']
  | any same _ ih =>
      cases h' with
      | any same' h' => rw [eq_of_forall_zip same same' (fun p hp _ => ih p hp) h']
  | keep same _ stop ih =>
      cases h' with
      | keep same' h' _ => rw [eq_of_forall_zip same same' (fun p hp _ => ih p hp) h']
      | expand same' h' next' again' =>
          cases eq_of_forall_zip same same' (fun p hp _ => ih p hp) h'
          cases stop.symm.trans next'
  | expand same _ next _ ih iha =>
      cases h' with
      | keep same' h' stop' =>
          cases eq_of_forall_zip same same' (fun p hp _ => ih p hp) h'
          cases next.symm.trans stop'
      | expand same' h' next' again' =>
          cases eq_of_forall_zip same same' (fun p hp _ => ih p hp) h'
          cases next.symm.trans next'
          exact iha again'

/-! ### Expanding every pivot -/

theorem taggedBranches?_eq_none {f : Formula Name} :
    taggedBranches? f = none ↔ ∀ fs, f = .any fs → tagsAll fs = [] := by
  cases f <;> simp [taggedBranches?]

theorem taggedBranches?_eq_some {f : Formula Name} {bs : List (Formula Name)}
    (h : taggedBranches? f = some bs) : f = .any bs ∧ tagsAll bs ≠ [] := by
  cases f <;> simp only [taggedBranches?, Option.ite_none_left_eq_some, reduceCtorEq] at h
  obtain ⟨tagged, h⟩ := h
  cases h
  exact ⟨rfl, fun free => tagged (by rw [free]; rfl)⟩

theorem pivot?_append {before : List (Formula Name)} (h : ∀ f ∈ before, taggedBranches? f = none)
    (fs : List (Formula Name)) :
    pivot? (before ++ fs) = (pivot? fs).map fun p => { p with before := before ++ p.before } := by
  induction before with
  | nil => simp
  | cons f before ih =>
      obtain ⟨hf, hbefore⟩ := List.forall_mem_cons.1 h
      rw [List.cons_append, pivot?, hf]
      simp [ih hbefore, Function.comp_def]

theorem Stays.not_tagged {f : Formula Name} (h : f.Stays) : taggedBranches? f = none :=
  taggedBranches?_eq_none.2 h.plain

/-- Without a pivot a conjunction stays as it is. -/
theorem pivot?_stays {fs : List (Formula Name)} (h : ∀ f ∈ fs, f.Stays) : pivot? fs = none := by
  have := pivot?_append (fun f hf => (h f hf).not_tagged) []
  rwa [List.append_nil] at this

theorem forall_zip_map {α : Type} {as : List α} (f g : α → Formula Name)
    (h : ∀ a ∈ as, Distributes (f a) (g a)) :
    ∀ p ∈ (as.map f).zip (as.map g), Distributes p.1 p.2 := by
  rw [List.zip_map']
  exact List.forall_mem_map.2 h

theorem forall_zip_results {fs : List (Formula Name)} (g : Formula Name → Formula Name)
    (h : ∀ f ∈ fs, Distributes f (g f)) : ∀ p ∈ fs.zip (fs.map g), Distributes p.1 p.2 := by
  have pointwise := forall_zip_map id g h
  rwa [List.map_id] at pointwise

theorem forall_zip_self {fs : List (Formula Name)} (h : ∀ f ∈ fs, Distributes f f) :
    ∀ p ∈ fs.zip fs, Distributes p.1 p.2 := by
  have pointwise := forall_zip_results id h
  rwa [List.map_id] at pointwise

/-- Distribution leaves alone what has been distributed. -/
theorem IsDistributed.distributes {f : Formula Name} (h : f.IsDistributed) : Distributes f f := by
  induction h with
  | tag t => exact .tag t
  | test t => exact .test t
  | not _ ih => exact .not ih
  | @all fs two h flat plain ih =>
      have stays := fun f hf => Stays.mk (h f hf) (flat f hf) (plain f hf)
      have kept := Distributes.keep rfl (forall_zip_self ih) (pivot?_stays stays)
      rwa [conjunction, flatMap_operands flat, allOf_of_two two] at kept
  | @any fs two h flat ih =>
      have kept := Distributes.any rfl (forall_zip_self ih)
      rwa [disjunction, flatMap_branches flat, anyOf_of_two two] at kept

theorem IsDistributed.any_branches {fs : List (Formula Name)} (h : (Formula.any fs).IsDistributed) :
    2 ≤ fs.length ∧ (∀ f ∈ fs, f.IsDistributed) ∧ ∀ f ∈ fs, ∀ gs, f ≠ .any gs := by
  cases h with
  | any two h flat => exact ⟨two, h, flat⟩

/-- Operands of a distributed formula that is no disjunction stay. -/
theorem IsDistributed.operands_stay {f : Formula Name} (h : f.IsDistributed)
    (hany : ∀ fs, f ≠ .any fs) : ∀ g ∈ f.operands, g.Stays := by
  cases h with
  | all two h flat plain => exact fun g hg => ⟨h g hg, flat g hg, plain g hg⟩
  | any _ _ _ => exact absurd rfl (hany _)
  | tag t => simpa [operands] using Stays.mk (.tag t) (by simp) (by simp)
  | test t => simpa [operands] using Stays.mk (.test t) (by simp) (by simp)
  | not h => simpa [operands] using Stays.mk (.not h) (by simp) (by simp)

/-- A first operand that is a disjunction with tags makes one group of clauses for each of its
branches. -/
theorem clausesOfAll_pivot {before bs after : List (Formula Name)} (h : ∀ f ∈ before, f.Stays)
    (tagged : tagsAll bs ≠ []) (flat : ∀ b ∈ bs, ∀ gs, b ≠ .any gs) :
    clausesOfAll (before ++ .any bs :: after) =
      bs.flatMap fun b => clausesOfAll (before ++ b.operands ++ after) := by
  obtain ⟨c, hc, -⟩ := clausesOfAll_stays fun f hf => (h f hf).choices_singleton
  have pivot : choices (.any bs) = clausesOfAny bs := by
    rcases choices_cases (.any bs) with hch | ⟨fs, gs, heq, hgs, -⟩
    · exact hch
    · cases heq
      exact absurd ((tagFreeAll?_tags bs).1 gs hgs) tagged
  have branch : clausesOfAny bs = bs.flatMap fun b => clausesOfAll b.operands := by
    rw [clausesOfAny_eq]
    refine List.flatMap_congr fun b hb => ?_
    rw [clausesOfAll_operands, choices_of_ne_any (flat b hb)]
  simp only [clausesOfAll_append, clausesOfAll_cons, hc, pivot, branch, joined]
  simp [List.flatMap_assoc, List.map_flatMap, List.flatMap_map, Function.comp_def]

/-- The formula of several groups of clauses. -/
theorem disjunction_ofClauses {α : Type} {as : List α} (cs : α → List Clause)
    (h : ∀ a ∈ as, Conjunctive (cs a)) :
    disjunction (as.map fun a => ofClauses (cs a)) = ofClauses (as.flatMap cs) := by
  have branches : (as.map fun a => ofClauses (cs a)).flatMap branches =
      (as.flatMap cs).map Clause.toFormula := by
    induction as with
    | nil => rfl
    | cons a as ih =>
        obtain ⟨ha, has⟩ := List.forall_mem_cons.1 h
        rw [List.map_cons, List.flatMap_cons, branches_ofClauses ha, ih has, List.flatMap_cons,
          List.map_append]
  rw [disjunction, branches, ofClauses_eq]

/-- Where a pivot is expanded, the operands of each branch take its place. -/
theorem expanded_eq {before bs after : List (Formula Name)} (two : 2 ≤ bs.length)
    (flat : ∀ f ∈ before ++ after, ∀ gs, f ≠ .all gs)
    (long : ∀ b ∈ bs, 2 ≤ (before ++ b.operands ++ after).length) :
    (Pivot.mk before bs after).expanded =
      .any (bs.map fun b => .all (before ++ b.operands ++ after)) := by
  obtain ⟨hbefore, hafter⟩ := List.forall_mem_append.1 flat
  have branch : (bs.map fun b => conjunction (before ++ b :: after)) =
      bs.map fun b => .all (before ++ b.operands ++ after) := by
    refine List.map_congr_left fun b hb => ?_
    rw [conjunction, List.flatMap_append, List.flatMap_cons, flatMap_operands hbefore,
      flatMap_operands hafter, ← List.append_assoc, allOf_of_two (long b hb)]
  rw [Pivot.expanded, branch, disjunction, flatMap_branches (by simp),
    anyOf_of_two (by rwa [List.length_map])]

section

variable {before bs after : List (Formula Name)}

/-- What comes before a pivot stays, and so do the operands of a branch of it. -/
theorem branch_stays (hbefore : ∀ f ∈ before, f.Stays) (hbs : (Formula.any bs).IsDistributed) :
    ∀ b ∈ bs, ∀ f ∈ before ++ b.operands, f.Stays := by
  obtain ⟨-, hbs, flat⟩ := hbs.any_branches
  intro b hb
  exact List.forall_mem_append.2 ⟨hbefore, (hbs b hb).operands_stay (flat b hb)⟩

/-- The operands of a branch are one or more, where the pivot was one. -/
theorem two_le_branch (hbs : (Formula.any bs).IsDistributed)
    (two : 2 ≤ (before ++ .any bs :: after).length) :
    ∀ b ∈ bs, 2 ≤ (before ++ b.operands ++ after).length := by
  intro b hb
  have := List.length_pos_iff.2 (hbs.any_branches.2.1 b hb).isFlat.operands.1
  simp only [List.length_append, List.length_cons] at two ⊢
  omega

/-- What comes of expanding a pivot has a result if each of its branches has one. -/
theorem distributes_expanded (hbefore : ∀ f ∈ before, f.Stays)
    (hbs : (Formula.any bs).IsDistributed) (tagged : tagsAll bs ≠ [])
    (hafter : ∀ f ∈ after, f.IsDistributed ∧ ∀ gs, f ≠ .all gs)
    (two : 2 ≤ (before ++ .any bs :: after).length)
    (branch : ∀ b ∈ bs, Distributes (.all (before ++ b.operands ++ after))
      (ofClauses (clausesOfAll (before ++ b.operands ++ after)))) :
    Distributes (Pivot.mk before bs after).expanded
      (ofClauses (clausesOfAll (before ++ .any bs :: after))) := by
  obtain ⟨twobs, -, flatbs⟩ := hbs.any_branches
  have flat : ∀ f ∈ before ++ after, ∀ gs, f ≠ .all gs :=
    List.forall_mem_append.2 ⟨fun f hf => (hbefore f hf).flat, fun f hf => (hafter f hf).2⟩
  have conjunctive : ∀ b ∈ bs, Conjunctive (clausesOfAll (before ++ b.operands ++ after)) := by
    intro b hb
    have flat : ∀ f ∈ before ++ b.operands ++ after, f.IsFlat := List.forall_mem_append.2
      ⟨fun f hf => (branch_stays hbefore hbs b hb f hf).distributed.isFlat,
        fun f hf => (hafter f hf).1.isFlat⟩
    exact conjunctive_clausesOfAll (two_le_branch hbs two b hb) fun f hf =>
      (flat f hf).proper_choices (flat f hf).proper_clauses.1
  rw [expanded_eq twobs flat (two_le_branch hbs two), clausesOfAll_pivot hbefore tagged flatbs,
    ← disjunction_ofClauses _ conjunctive]
  exact .any (by simp) (forall_zip_map _ _ branch)

end

/-- Expanding one pivot after the other comes to an end, at the clauses of the operands.  The
operands before the first pivot stay for good, and expanding it only adds to them, so the operands
that can still be pivots become fewer. -/
theorem distributes_all {before rest : List (Formula Name)} (hbefore : ∀ f ∈ before, f.Stays)
    (hrest : ∀ f ∈ rest, f.IsDistributed ∧ ∀ gs, f ≠ .all gs) (two : 2 ≤ (before ++ rest).length)
    {fs : List (Formula Name)} (same : fs.length = (before ++ rest).length)
    (h : ∀ p ∈ fs.zip (before ++ rest), Distributes p.1 p.2) :
    Distributes (.all fs) (ofClauses (clausesOfAll (before ++ rest))) := by
  induction rest generalizing before fs with
  | nil =>
      rw [List.append_nil] at h same ⊢
      obtain ⟨c, hc, hcf⟩ := clausesOfAll_stays fun f hf => (hbefore f hf).choices_singleton
      have kept := Distributes.keep same h (pivot?_stays hbefore)
      rw [conjunction, flatMap_operands fun f hf => (hbefore f hf).flat] at kept
      rw [hc, ofClauses_eq, List.map_singleton, toFormula_eq, hcf]
      exact kept
  | cons g rest ih =>
      obtain ⟨⟨hg, hflat⟩, hafter⟩ := List.forall_mem_cons.1 hrest
      cases hg? : taggedBranches? g with
      | none =>
          rw [List.append_cons] at h same two ⊢
          have hg : g.Stays := ⟨hg, hflat, taggedBranches?_eq_none.1 hg?⟩
          exact ih (List.forall_mem_append.2 ⟨hbefore, by simpa using hg⟩) hafter two same h
      | some bs =>
          obtain ⟨rfl, tagged⟩ := taggedBranches?_eq_some hg?
          have next : pivot? (before ++ .any bs :: rest) = some ⟨before, bs, rest⟩ := by
            rw [pivot?_append fun f hf => (hbefore f hf).not_tagged, pivot?, hg?]
            simp
          refine .expand same h next (distributes_expanded hbefore hg tagged hafter two ?_)
          intro b hb
          have stay := branch_stays hbefore hg b hb
          have again := forall_zip_self (List.forall_mem_append.2
            ⟨fun f hf => (stay f hf).distributed.distributes,
              fun f hf => (hafter f hf).1.distributes⟩)
          exact ih stay hafter (two_le_branch hg two b hb) rfl again

/-- Distribution makes no conjunction of what is none. -/
theorem IsFlat.distributed_ne_all {f : Formula Name} (h : f.IsFlat) (flat : ∀ fs, f ≠ .all fs)
    (fs : List (Formula Name)) : f.distributed ≠ .all fs := by
  cases h with
  | all two _ _ => exact absurd rfl (flat _)
  | @any gs two h _ =>
      have clauses : 2 ≤ (clausesOfAny gs).length := by
        match gs, two with
        | f :: g :: gs, _ =>
            have hf := List.length_pos_iff.2 (h f (by simp)).proper_clauses.1.ne_nil
            have hg := List.length_pos_iff.2 (h g (by simp)).proper_clauses.1.ne_nil
            simp only [clausesOfAny, List.length_append]
            omega
      rw [Formula.distributed, ofClauses_eq, anyOf_of_two (by rwa [List.length_map])]
      simp
  | _ =>
      simp [Formula.distributed, ofClauses_eq, toFormula_eq, clauses, anyOf, allOf,
        Operand.toFormula]

/-- Every flat formula has a result, which is the formula of its clauses. -/
theorem IsFlat.distributes {f : Formula Name} (h : f.IsFlat) : Distributes f f.distributed := by
  induction h with
  | tag t => exact .tag t
  | test t => exact .test t
  | not _ ih => exact .not ih
  | @all fs two h flat ih =>
      have operand : ∀ f ∈ fs.map Formula.distributed, f.IsDistributed ∧ ∀ gs, f ≠ .all gs :=
        List.forall_mem_map.2 fun f hf =>
          ⟨(h f hf).isDistributed_distributed, (h f hf).distributed_ne_all (flat f hf)⟩
      have result := distributes_all (List.forall_mem_nil _) operand
        (by simpa using two) (by simp) (forall_zip_results _ ih)
      rwa [List.nil_append, clausesOfAll_distributed h] at result
  | @any fs two h flat ih =>
      have result := Distributes.any (List.length_map _).symm (forall_zip_results _ ih)
      unfold Formula.distributed at result
      rwa [disjunction_ofClauses Formula.clauses fun f hf => (h f hf).proper_clauses.2,
        ← clausesOfAny_eq] at result

/-- **The rule has one result, which is equivalent and in normal form.** -/
theorem distributes_expression_iff {e : Expression} {f : Formula Name}
    (h : ofExpression? e = .ok f) :
    (∀ g, Distributes f g ↔ g = f.distributed) ∧
      (∀ tags tests, f.distributed.eval tags tests = f.eval tags tests) ∧
      f.distributed.IsDistributed := by
  have flat := isFlat_of_ofExpression? h
  refine ⟨fun g => ⟨fun hg => hg.unique flat.distributes, ?_⟩, fun tags tests => ?_, ?_⟩
  · rintro rfl
    exact flat.distributes
  · exact eval_distributed tags tests f
  · exact flat.isDistributed_distributed

/-- Two pivots in one conjunction, expanded one after the other. -/
theorem distributes_expression_two_pivots :
    ∃ p li div x : Formula Name,
      ofExpression? (((Expression.tag ⟨"p"⟩).or (.tag ⟨"li"⟩)).and
        ((Expression.tag ⟨"div"⟩).or (.attr "class" (.relation .equals) "x"))) =
          .ok (.all [.any [p, li], .any [div, x]]) ∧
      ∀ g, Distributes (.all [.any [p, li], .any [div, x]]) g ↔
        g = .any [.all [p, div], .all [p, x], .all [li, div], .all [li, x]] := by
  have compiles : ofExpression? (((Expression.tag ⟨"p"⟩).or (.tag ⟨"li"⟩)).and
      ((Expression.tag ⟨"div"⟩).or (.attr "class" (.relation .equals) "x"))) =
        .ok (.all [.any [.tag ⟨"p".toList, by decide⟩, .tag ⟨"li".toList, by decide⟩],
          .any [.tag ⟨"div".toList, by decide⟩,
            .test (.attr ⟨"class".toList, by decide⟩ .equals "x")]]) := by rfl
  exact ⟨_, _, _, _, compiles, (distributes_expression_iff compiles).1⟩

end Formula

end WebDriverClient.Locator
