/-
**Compilation node by node.**

`Locator.Expression.compile` works on clauses.  The rule that it stands for goes down the
distributed formula and gives every node a form of its own: a CSS form, if it has one, and in XPath
a filter or a union of paths.  Two branches of the rule have nothing to say.  Only a filter can
stand as an operand of a conjunction or below a negation, and there is none to be had of a node that
became a union of paths.  What a rule would answer there is a parameter here, and the result does
not depend on it: in a distributed formula no such node is ever met.

Main definitions:

* `Locator.Form`, `Locator.Fragment` — what a node becomes;
* `Locator.Formula.fragment?` — the rule, for a given answer where it has nothing to say;
* `Locator.Expression.assemble` — the query that the rule gives.

Main results:

* `Locator.Formula.fragment?_ofTagFree` — a node without tags becomes a filter;
* `Locator.Formula.gather?_operands` — operands of a clause are put together one by one;
* `Locator.Expression.assemble_eq` — **the rule compiles every expression as its clauses say,
  whatever it would answer where it has nothing to say**.
-/

import WebDriverClient.Proofs.Locator.NormalForm

set_option autoImplicit false

namespace WebDriverClient.Locator

/-! ### What a node becomes -/

/-- What a node asks of an element in XPath. -/
inductive Form where
  | filter (f : XPath.Filter)
  | paths (ps : List XPath.Path)

namespace Form

/-- The paths of a form.  A filter is asked of all elements. -/
def toPaths : Form → List XPath.Path
  | filter f => [⟨none, [f]⟩]
  | paths ps => ps

/-- The filter, if the form is one. -/
def filter? : Form → Option XPath.Filter
  | filter f => some f
  | paths _ => none

end Form

/-- What a node of a formula becomes. -/
structure Fragment where
  css : Option (List Css.Compound)
  xpath : Form
  tag : Option Name

namespace Fragment

/-- The fragment of operands that have been put together. -/
def ofOperands (c : Conjunction) : Fragment where
  css := c.compound?.map ([·])
  xpath := match c.tag with
    | some t => .paths [⟨some t, c.filters⟩]
    | none => .filter (.all c.filters)
  tag := c.tag

/-- The fragment of a disjunction.  It is a filter only if no branch fixes a tag. -/
def union (fs : List Fragment) : Fragment :=
  let tag := fs.head?.bind (·.tag)
  let sameTag := fs.all (·.tag = tag)
  let paths := fs.flatMap (·.xpath.toPaths)
  { css := if sameTag then (fs.mapM css).map List.flatten else none
    xpath :=
      if !sameTag || tag.isSome then .paths paths
      else match fs.mapM (fun f => f.xpath.filter?) with
        | some filters => .filter (.any filters)
        | none => .paths paths
    tag := if sameTag then tag else none }

theorem union_of_filters {fs : List Fragment} {filters : List XPath.Filter}
    (tags : ∀ f ∈ fs, f.tag = none) (h : fs.mapM (fun f => f.xpath.filter?) = some filters) :
    union fs = ⟨(union fs).css, .filter (.any filters), none⟩ := by
  have first : fs.head?.bind (·.tag) = none := by
    cases fs with
    | nil => rfl
    | cons f fs => exact tags f List.mem_cons_self
  have same : fs.all (·.tag = none) = true := List.all_eq_true.2 fun f hf => by simp [tags f hf]
  simp [union, first, same, h]

/-- The selector of a fragment, which is CSS if it can be. -/
def selector (f : Fragment) : Selector :=
  match f.css with
  | some compounds => .css compounds
  | none => .xpath f.xpath.toPaths

end Fragment

/-- The test of an attribute that a node is, if CSS can write it. -/
def Formula.attribute? : Formula Name → Option Css.Attribute
  | .test t => Conjunction.cssTest? t
  | _ => none

/-- Adds an operand of which a filter has been made. -/
def Conjunction.addFilter (c : Conjunction) (operand : Formula Name) (filter : XPath.Filter) :
    Conjunction where
  tag := c.tag
  attributes := match c.attributes, operand.attribute? with
    | some as, some a => some (as ++ [a])
    | _, _ => none
  filters := c.filters ++ [filter]

/-- Only the test of an attribute leaves a conjunction its CSS form. -/
theorem Conjunction.addFilter_of_none (c : Conjunction) {operand : Formula Name}
    (h : operand.attribute? = none) (filter : XPath.Filter) :
    c.addFilter operand filter = ⟨c.tag, none, c.filters ++ [filter]⟩ := by
  simp [addFilter, h]

namespace Formula

mutual

/-- What a node becomes, or the leftmost fault below it.  `stray` is answered where a filter is
needed and there is none. -/
def fragment? (stray : Failure) : Formula Name → Except Failure Fragment
  | .tag t => .ok ⟨some [⟨some t, []⟩], .paths [⟨some t, []⟩], some t⟩
  | .test t => .ok ⟨(Conjunction.cssTest? t).map fun a => [⟨none, [a]⟩], .filter (.ofTest t), none⟩
  | .all fs => do return .ofOperands (← gather? stray .empty fs)
  | .any fs => do return .union (← fragments? stray fs)
  | .not f =>
    match f.tags.head? with
    | some t => .error (.negatedTag t.text)
    | none => do
      match (← fragment? stray f).xpath with
      | .filter g => return ⟨none, .filter (.not g), none⟩
      | .paths _ => throw stray

/-- Adds operands from the left. -/
def gather? (stray : Failure) (c : Conjunction) : List (Formula Name) → Except Failure Conjunction
  | [] => .ok c
  | .tag t :: fs => do gather? stray (← c.add (.tag t)) fs
  | f :: fs => do
    match (← fragment? stray f).xpath with
    | .filter g => gather? stray (c.addFilter f g) fs
    | .paths _ => throw stray

/-- What the nodes of a list become. -/
def fragments? (stray : Failure) : List (Formula Name) → Except Failure (List Fragment)
  | [] => .ok []
  | f :: fs => do
    let f ← fragment? stray f
    let fs ← fragments? stray fs
    return f :: fs

end

end Formula

/-- The query of an expression, node by node.  `stray` is answered where a filter is needed and
there is none. -/
def Expression.assemble (stray : Failure) : Expression → Except Failure Query
  | .leaf (.linkText text part) => .ok (Selector.linkText text part).toQuery
  | .leaf (.tag t) => do return (Selector.tagName (← Formula.validName .tag t.text)).toQuery
  | e => do
    let f ← Formula.ofExpression? e
    return (← f.distributed.fragment? stray).selector.toQuery

/-! ### Nodes without tags -/

namespace Formula

variable {stray : Failure}

/-- An operand that is no tag becomes a filter or is a fault. -/
theorem gather?_cons {c : Conjunction} {f : Formula Name} (h : ∀ t, f ≠ .tag t)
    (fs : List (Formula Name)) :
    gather? stray c (f :: fs) = (do
      match (← fragment? stray f).xpath with
      | .filter g => gather? stray (c.addFilter f g) fs
      | .paths _ => throw stray) := by
  cases f with
  | tag t => exact absurd rfl (h t)
  | _ => rfl

theorem gather?_of_filter {c : Conjunction} {f : Formula Name} (h : ∀ t, f ≠ .tag t)
    {css : Option (List Css.Compound)} {g : XPath.Filter} {tag : Option Name}
    (hf : fragment? stray f = .ok ⟨css, .filter g, tag⟩) (fs : List (Formula Name)) :
    gather? stray c (f :: fs) = gather? stray (c.addFilter f g) fs := by
  rw [gather?_cons h, hf]
  rfl

theorem ofTagFree_ne_tag (g : Formula Empty) (t : Name) : (ofTagFree g : Formula Name) ≠ .tag t := by
  cases g with
  | tag t => exact t.elim
  | _ => simp [ofTagFree]

mutual

/-- A node without tags becomes a filter. -/
theorem fragment?_ofTagFree : ∀ g : Formula Empty,
    ∃ css, fragment? stray (ofTagFree g) = .ok ⟨css, .filter (.ofFormula g), none⟩
  | .test t => ⟨_, rfl⟩
  | .all gs => by
      obtain ⟨attributes, h⟩ := gather?_ofTagFreeAll gs .empty
      refine ⟨(Fragment.ofOperands ⟨none, attributes, XPath.Filter.ofFormulas gs⟩).css, ?_⟩
      rw [ofTagFree, fragment?, h]
      rfl
  | .any gs => by
      obtain ⟨fs, h, tags, filters⟩ := fragments?_ofTagFreeAll gs
      refine ⟨(Fragment.union fs).css, ?_⟩
      rw [ofTagFree, fragment?, h]
      exact congrArg Except.ok (Fragment.union_of_filters tags filters)
  | .not g => by
      obtain ⟨css, h⟩ := fragment?_ofTagFree g
      refine ⟨none, ?_⟩
      rw [ofTagFree, fragment?, tags_ofTagFree, h]
      rfl

theorem gather?_ofTagFreeAll : ∀ (gs : List (Formula Empty)) (c : Conjunction),
    ∃ attributes, gather? stray c (ofTagFreeAll gs)
      = .ok ⟨c.tag, attributes, c.filters ++ XPath.Filter.ofFormulas gs⟩
  | [], c => ⟨c.attributes, by simp [ofTagFreeAll, gather?, XPath.Filter.ofFormulas]⟩
  | g :: gs, c => by
      obtain ⟨css, h⟩ := fragment?_ofTagFree g
      obtain ⟨attributes, hs⟩ := gather?_ofTagFreeAll gs
        (c.addFilter (ofTagFree g) (.ofFormula g))
      refine ⟨attributes, ?_⟩
      rw [ofTagFreeAll, gather?_of_filter (ofTagFree_ne_tag g) h, hs]
      simp [Conjunction.addFilter, XPath.Filter.ofFormulas]

theorem fragments?_ofTagFreeAll : ∀ gs : List (Formula Empty),
    ∃ fs, fragments? stray (ofTagFreeAll gs) = .ok fs ∧ (∀ f ∈ fs, f.tag = none)
      ∧ fs.mapM (fun f => f.xpath.filter?) = some (XPath.Filter.ofFormulas gs)
  | [] => ⟨[], rfl, by simp, rfl⟩
  | g :: gs => by
      obtain ⟨css, h⟩ := fragment?_ofTagFree g
      obtain ⟨fs, hs, tags, filters⟩ := fragments?_ofTagFreeAll gs
      refine ⟨⟨css, .filter (.ofFormula g), none⟩ :: fs, ?_, ?_, ?_⟩
      · rw [ofTagFreeAll, fragments?, h, hs]
        rfl
      · exact List.forall_mem_cons.2 ⟨rfl, tags⟩
      · rw [List.mapM_cons, filters]
        rfl

end

/-! ### Clauses -/

/-- An operand of a clause is added as its formula is. -/
theorem gather?_operand (c : Conjunction) (o : Operand) (fs : List (Formula Name)) :
    gather? stray c (o.toFormula :: fs) = c.add o >>= fun d => gather? stray d fs := by
  cases o with
  | tag t => rfl
  | test t =>
      rw [Operand.toFormula, gather?_of_filter (by simp) rfl]
      rfl
  | any gs =>
      obtain ⟨css, h⟩ : ∃ css, fragment? stray (.any (ofTagFreeAll gs))
          = .ok ⟨css, .filter (.ofFormula (.any gs)), none⟩ := fragment?_ofTagFree (.any gs)
      rw [Operand.toFormula, gather?_of_filter (by simp) h, Conjunction.addFilter_of_none c rfl]
      rfl
  | not f =>
      cases hf : f.tagFree? with
      | ok g =>
          obtain ⟨css, h⟩ : ∃ css, fragment? stray (.not (ofTagFree g))
              = .ok ⟨css, .filter (.ofFormula (.not g)), none⟩ := fragment?_ofTagFree (.not g)
          obtain rfl := ofTagFree_of_tagFree? hf
          rw [Operand.toFormula, gather?_of_filter (by simp) h, Conjunction.addFilter_of_none c rfl,
            Conjunction.add, hf]
          rfl
      | error t =>
          rw [Operand.toFormula, gather?_cons (by simp), fragment?, tagFree?_eq_error hf,
            Conjunction.add, hf]
          rfl

/-- Operands of a clause are put together as their formulas are. -/
theorem gather?_operands (c : Conjunction) (os : List Operand) :
    gather? stray c (os.map Operand.toFormula) = c.addAll os := by
  induction os generalizing c with
  | nil => rfl
  | cons o os ih =>
      rw [List.map_cons, gather?_operand, Conjunction.addAll]
      exact congrArg (c.add o >>= ·) (funext fun d => ih d)

end Formula

namespace Conjunction

/-- A clause that fixes no tag has a filter for each of its operands. -/
theorem length_filters_of_add {c d : Conjunction} {o : Operand} (h : c.add o = .ok d)
    (free : d.tag = none) : c.tag = none ∧ d.filters.length = c.filters.length + 1 := by
  cases o with
  | tag t =>
      simp only [add] at h
      split at h
      next =>
        cases h
        cases free
      next tagged =>
        split at h
        next =>
          cases h
          exact absurd (tagged.symm.trans free) (by simp)
        next => cases h
  | test t =>
      cases h
      exact ⟨free, List.length_append⟩
  | any fs =>
      cases h
      exact ⟨free, List.length_append⟩
  | not f =>
      simp only [add] at h
      split at h
      next =>
        cases h
        exact ⟨free, List.length_append⟩
      next => cases h

theorem length_filters_of_addAll {os : List Operand} {c d : Conjunction}
    (h : c.addAll os = .ok d) (free : d.tag = none) :
    c.tag = none ∧ d.filters.length = c.filters.length + os.length := by
  induction os generalizing c with
  | nil =>
      cases h
      exact ⟨free, rfl⟩
  | cons o os ih =>
      obtain ⟨c', hc', h⟩ := Except.bind_eq_ok_iff.1 h
      obtain ⟨free', rest⟩ := ih h
      obtain ⟨first, one⟩ := length_filters_of_add hc' free'
      refine ⟨first, ?_⟩
      rw [rest, one, List.length_cons]
      omega

end Conjunction

namespace Fragment

/-- The fragment of a clause. -/
def ofConjunction (c : Conjunction) : Fragment where
  css := c.compound?.map ([·])
  xpath := match c.tag with
    | some t => .paths [⟨some t, c.filters⟩]
    | none => .filter (.conj c.filters)
  tag := c.tag

theorem ofOperands_eq {os : List Operand} {d : Conjunction}
    (h : Conjunction.ofClause os = .ok d) (more : os.length ≠ 1) :
    ofOperands d = ofConjunction d := by
  cases ht : d.tag with
  | some t => simp [ofOperands, ofConjunction, ht]
  | none =>
      obtain ⟨-, length⟩ := Conjunction.length_filters_of_addAll h ht
      have several : XPath.Filter.conj d.filters = .all d.filters := by
        unfold XPath.Filter.conj
        split
        next f hf => simp [hf, Conjunction.empty] at length; omega
        next => rfl
      simp [ofOperands, ofConjunction, ht, several]

/-- The paths of the fragment of a clause are its path. -/
theorem toPaths_ofConjunction (c : Conjunction) : (ofConjunction c).xpath.toPaths = [c.path] := by
  unfold ofConjunction Conjunction.path
  cases c.tag <;> rfl

end Fragment

namespace Formula

variable {stray : Failure}

/-- A clause becomes what its operands are put together to. -/
theorem fragment?_clause {c : Clause} (h : ∀ gs, c ≠ [.any gs]) :
    fragment? stray c.toFormula = (Conjunction.ofClause c).map Fragment.ofConjunction := by
  rcases clause_toFormula_cases c with ⟨o, rfl, heq⟩ | ⟨more, heq⟩
  · rw [heq]
    cases o with
    | tag t => rfl
    | test t =>
        cases t with
        | attr name relation value => rfl
        | comparison subject comparison value => rfl
    | any gs => exact absurd rfl (h gs)
    | not f =>
        cases hf : f.tagFree? with
        | ok g =>
            obtain ⟨css, hg⟩ : ∃ css, fragment? stray (ofTagFree g)
                = .ok ⟨css, .filter (.ofFormula g), none⟩ := fragment?_ofTagFree g
            obtain rfl := ofTagFree_of_tagFree? hf
            rw [Operand.toFormula, fragment?, tags_ofTagFree, hg, Conjunction.ofClause,
              Conjunction.addAll, Conjunction.add, hf]
            rfl
        | error t =>
            rw [Operand.toFormula, fragment?, tagFree?_eq_error hf, Conjunction.ofClause,
              Conjunction.addAll, Conjunction.add, hf]
            rfl
  · rw [heq, fragment?, gather?_operands, ← Conjunction.ofClause]
    cases hc : Conjunction.ofClause c with
    | error x => rfl
    | ok d => exact congrArg Except.ok (Fragment.ofOperands_eq hc more)

theorem fragments?_clauses {cs : List Clause} (h : Conjunctive cs) :
    fragments? stray (cs.map Clause.toFormula)
      = (conjunctions cs).map (List.map Fragment.ofConjunction) := by
  induction cs with
  | nil => rfl
  | cons c cs ih =>
      obtain ⟨hc, hcs⟩ := List.forall_mem_cons.1 h
      rw [List.map_cons, fragments?, fragment?_clause hc, ih hcs, conjunctions]
      cases Conjunction.ofClause c with
      | error x => rfl
      | ok d => cases conjunctions cs <;> rfl

end Formula

/-! ### Selectors -/

theorem length_conjunctions {cs : List Clause} {ds : List Conjunction}
    (h : conjunctions cs = .ok ds) : ds.length = cs.length := by
  induction cs generalizing ds with
  | nil =>
      cases h
      rfl
  | cons c cs ih =>
      obtain ⟨d, -, h⟩ := Except.bind_eq_ok_iff.1 h
      obtain ⟨ds', hds, h⟩ := Except.bind_eq_ok_iff.1 h
      cases h
      rw [List.length_cons, List.length_cons, ih hds]

namespace Fragment

theorem flatMap_toPaths (ds : List Conjunction) :
    (ds.map ofConjunction).flatMap (fun f => f.xpath.toPaths) = ds.map Conjunction.path := by
  induction ds with
  | nil => rfl
  | cons d ds ih => simp [toPaths_ofConjunction, ih]

theorem mapM_css (ds : List Conjunction) :
    ((ds.map ofConjunction).mapM css).map List.flatten = Selector.compounds? ds := by
  induction ds with
  | nil => rfl
  | cons d ds ih =>
      rw [Selector.compounds?, ← ih, List.map_cons, List.mapM_cons]
      have own : (ofConjunction d).css = d.compound?.map ([·]) := rfl
      rw [own]
      cases d.compound? with
      | none => rfl
      | some x => cases (ds.map ofConjunction).mapM css <;> rfl

theorem mapM_filter? {ds : List Conjunction} (h : ∀ d ∈ ds, d.tag = none) :
    (ds.map ofConjunction).mapM (fun f => f.xpath.filter?)
      = some (ds.map fun d => .conj d.filters) := by
  rw [List.mapM_map]
  refine List.mapM_eq_some_map fun d mem => ?_
  simp [ofConjunction, h d mem, Form.filter?]

/-- The selector of one clause. -/
theorem selector_ofConjunction (d : Conjunction) :
    (ofConjunction d).selector = Selector.ofConjunctions [d] := by
  unfold selector
  rw [toPaths_ofConjunction]
  have own : (ofConjunction d).css = d.compound?.map ([·]) := rfl
  rw [own, Selector.ofConjunctions, Selector.compounds?, Selector.compounds?]
  have xpath : Selector.xpathOf [d] = .xpath [d.path] := by
    unfold Selector.xpathOf Conjunction.path
    cases ht : d.tag <;> simp [ht, XPath.Filter.disj]
  cases d.compound? with
  | none => exact xpath.symm
  | some x => rfl

/-- All clauses agree on the tag of the first. -/
theorem all_tag_ofConjunction (ds : List Conjunction) :
    (ds.map ofConjunction).all (·.tag = (ds.map ofConjunction).head?.bind (·.tag))
      = Selector.sameTag ds := by
  have own (d : Conjunction) : (ofConjunction d).tag = d.tag := rfl
  cases ds with
  | nil => rfl
  | cons d ds => simp [Selector.sameTag, own, Function.comp_def]

/-- Several clauses become paths unless none of them fixes a tag. -/
theorem tagged_ofConjunction (ds : List Conjunction) :
    (!Selector.sameTag ds || ((ds.map ofConjunction).head?.bind (·.tag)).isSome)
      = !ds.all (·.tag = none) := by
  have own (d : Conjunction) : (ofConjunction d).tag = d.tag := rfl
  cases ds with
  | nil => rfl
  | cons d ds => cases hd : d.tag <;> simp [Selector.sameTag, own, hd]

theorem disj_of_two {fs : List XPath.Filter} (h : 2 ≤ fs.length) :
    XPath.Filter.disj fs = .any fs := by
  match fs, h with
  | _ :: _ :: _, _ => rfl

/-- The XPath form of several clauses. -/
theorem toPaths_union {ds : List Conjunction} (two : 2 ≤ ds.length) :
    Selector.xpath (union (ds.map ofConjunction)).xpath.toPaths = Selector.xpathOf ds := by
  have xpath : (union (ds.map ofConjunction)).xpath =
      if !ds.all (·.tag = none) then .paths (ds.map Conjunction.path)
      else match (ds.map ofConjunction).mapM (fun f => f.xpath.filter?) with
        | some filters => .filter (.any filters)
        | none => .paths (ds.map Conjunction.path) := by
    simp only [union, all_tag_ofConjunction, tagged_ofConjunction, flatMap_toPaths]
  rw [xpath, Selector.xpathOf]
  cases tagless : ds.all (·.tag = none) with
  | true =>
      have free : ∀ d ∈ ds, d.tag = none := by simpa using tagless
      rw [mapM_filter? free, disj_of_two (by simpa using two)]
      rfl
  | false => rfl

/-- The selector of several clauses. -/
theorem selector_union {ds : List Conjunction} (two : 2 ≤ ds.length) :
    (union (ds.map ofConjunction)).selector = Selector.ofConjunctions ds := by
  have css : (union (ds.map ofConjunction)).css
      = if Selector.sameTag ds then Selector.compounds? ds else none := by
    simp only [union, all_tag_ofConjunction, mapM_css]
  rw [selector, css, toPaths_union two, Selector.ofConjunctions]
  cases Selector.compounds? ds <;> cases Selector.sameTag ds <;> rfl

end Fragment

namespace Formula

/-- The fragment of a distributed formula has the selector of its clauses. -/
theorem selector_fragment? {f : Formula Name} (flat : f.IsFlat) (stray : Failure) :
    (f.distributed.fragment? stray).map Fragment.selector = f.selector := by
  obtain ⟨proper, conjunctive⟩ := flat.proper_clauses
  rw [Formula.distributed, ofClauses_eq, selector]
  rcases hcs : clauses f with _ | ⟨c, _ | ⟨c', cs⟩⟩
  · exact absurd hcs proper.ne_nil
  · rw [hcs] at conjunctive
    rw [List.map_singleton, anyOf, fragment?_clause (conjunctive c List.mem_cons_self), conjunctions]
    cases Conjunction.ofClause c with
    | error x => rfl
    | ok d => exact congrArg Except.ok (Fragment.selector_ofConjunction d)
  · rw [← hcs, anyOf_of_two (by simp [hcs]), fragment?, fragments?_clauses conjunctive]
    cases hds : conjunctions (clauses f) with
    | error x => rfl
    | ok ds =>
        have two : 2 ≤ ds.length := by
          rw [length_conjunctions hds, hcs]
          simp
        exact congrArg Except.ok (Fragment.selector_union two)

end Formula

/-- **The rule compiles every expression as its clauses say**, and what it would answer where it has
nothing to say does not matter. -/
theorem Expression.assemble_eq (stray : Failure) (e : Expression) :
    e.assemble stray = e.compile := by
  -- Links and lone tags are not made into formulas.
  have formula (h : e.selector = Formula.ofExpression? e >>= Formula.selector) :
      (do
        let f ← Formula.ofExpression? e
        return (← f.distributed.fragment? stray).selector.toQuery) = e.compile := by
    rw [compile, h]
    cases hf : Formula.ofExpression? e with
    | error x => rfl
    | ok f =>
        have selector := Formula.selector_fragment? (Formula.isFlat_of_ofExpression? hf) stray
        change _ = (f.selector >>= fun s => pure s.toQuery)
        rw [← selector]
        change (f.distributed.fragment? stray >>= fun r => pure r.selector.toQuery) = _
        cases f.distributed.fragment? stray <;> rfl
  match e with
  | .leaf (.linkText text part) => rfl
  | .leaf (.tag t) =>
      rw [assemble, compile, selector]
      cases Formula.validName .tag t.text <;> rfl
  | .leaf (.test t) => exact formula rfl
  | .and l r => exact formula rfl
  | .or l r => exact formula rfl
  | .not inner => exact formula rfl

end WebDriverClient.Locator
