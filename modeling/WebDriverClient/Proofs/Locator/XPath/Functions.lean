/-
**The functions of a selector.**

Everything before parentheses in an XPath query is a function of the core library of XPath 1.0
(section 4 of the recommendation), with as many arguments as it takes, or a name that the caller
gave, without arguments.  There is one exception: `ends-with`, which came with XPath 2.0 and stands
in the query of every expression one of whose leaves asks how a value ends.  A caller may ask this
of an attribute without asking for XPath.

Main definitions:

* `XPath.Expr.calls` — what stands before parentheses in a tree, with the arguments;
* `XPath.coreLibrary` — the functions of XPath 1.0;
* `Locator.Expression.Provides` — the calls that an XPath 1.0 engine can answer.

Main results:

* `XPath.Expr.mem_calls_ofPaths` — the calls in the tree of a selector are those of its filters;
* `Locator.Expression.provides_compile_iff` — **a query stays within XPath 1.0 exactly if no leaf
  asks how a value ends**;
* `Locator.Expression.not_provides_compile_suffix` — a test of an attribute may lead out of it.
-/

import WebDriverClient.Proofs.Locator.Mentions
import WebDriverClient.Proofs.Locator.XPath.ReadBack

set_option autoImplicit false

namespace WebDriverClient.Locator

namespace XPath

/-! ### Calls in a tree -/

/-- What stands before parentheses in a node test. -/
def NodeTest.calls : NodeTest → List (QName × List Expr)
  | .name _ => []
  | .type t => [(⟨none, t.name.toList⟩, [])]
  | .instruction target => [(⟨none, NodeType.processingInstruction.name.toList⟩, [.literal target])]

namespace Expr

mutual

/-- What stands before parentheses in a tree, with the arguments. -/
def calls : Expr → List (QName × List Expr)
  | .binary _ l r => calls l ++ calls r
  | .negative e => calls e
  | .literal _ | .number _ | .reference _ => []
  | .group e => calls e
  | .call f arguments => (f, arguments) :: callsAll arguments
  | .filtered e p => calls e ++ calls p
  | .joined e _ p => calls e ++ calls p
  | .root => []
  | .absolute _ p => calls p
  | .further p _ s => calls p ++ calls s
  | .step _ t ps => t.calls ++ callsAll ps
  | .self | .parent => []

/-- What stands before parentheses in the trees of a list. -/
def callsAll : List Expr → List (QName × List Expr)
  | [] => []
  | e :: es => calls e ++ callsAll es

end

theorem callsAll_eq (es : List Expr) : callsAll es = es.flatMap calls := by
  induction es with
  | nil => rfl
  | cons e es ih => rw [callsAll, ih, List.flatMap_cons]

theorem calls_join (o : BinaryOperator) (es : List Expr) :
    (join o es).calls = es.flatMap calls := by
  have grow (es : List Expr) (l : Expr) :
      (es.foldl (.binary o) l).calls = l.calls ++ es.flatMap calls := by
    induction es generalizing l with
    | nil => simp
    | cons e es ih => rw [List.foldl_cons, ih, calls, List.flatMap_cons, List.append_assoc]
  cases es with
  | nil => rfl
  | cons e es => rw [join, grow, List.flatMap_cons]

/-! ### Calls in the tree of a selector -/

theorem calls_core (function : String) (arguments : List Expr) :
    (core function arguments).calls =
      (⟨none, function.toList⟩, arguments) :: arguments.flatMap calls := by
  rw [core, calls, callsAll_eq]

/-- A name before parentheses is there, be it that of a function or of a type of nodes. -/
theorem calls_ofSubject (s : Subject Name) :
    (ofSubject s).calls = match s with
      | .attr _ => []
      | .function name => [(⟨none, name.chars⟩, [])] := by
  cases s with
  | attr name => rfl
  | function name =>
      rw [ofSubject]
      split
      next t ht => simp [calls, callsAll, NodeTest.calls, NodeType.name_of_ofName? ht]
      next => simp [calls, callsAll]

theorem calls_ofOperand (o : Operand) :
    (ofOperand o).calls = match o with
      | .literal _ => []
      | .concat ls => [(⟨none, "concat".toList⟩, ls.map .literal)] := by
  cases o with
  | literal l => rfl
  | concat ls =>
      rw [ofOperand, calls_core]
      simp [calls, List.flatMap_map]

/-- The function that a comparison calls. -/
def functionOf : Comparison → Option String
  | .relation .equals | .differs => none
  | .relation .contains => some "contains"
  | .relation .startsWith => some "starts-with"
  | .relation .endsWith => some "ends-with"

theorem calls_ofTest (s : Expr) (c : Comparison) (o : Expr) :
    (ofTest s c o).calls =
      (functionOf c).toList.map (fun f => (⟨none, f.toList⟩, [s, o])) ++ (s.calls ++ o.calls) := by
  match c with
  | .relation .equals => rfl
  | .differs => rfl
  | .relation .contains | .relation .startsWith | .relation .endsWith =>
      rw [ofTest, calls_core]
      simp [functionOf]

/-- The calls in a filter are those of its tests and of its negations. -/
theorem forall_calls_ofFilter {P : Subject Name → Comparison → XPath.Operand → Prop}
    {G : QName × List Expr → Prop} {f : Filter} (h : f.MadeOf P)
    (tests : ∀ s c o, P s c o → ∀ x ∈ (ofTest (ofSubject s) c (ofOperand o)).calls, G x)
    (negations : ∀ e, G (⟨none, "not".toList⟩, [e])) : ∀ x ∈ (ofFilter f).calls, G x := by
  have every {fs : List Filter} (ih : ∀ f ∈ fs, ∀ x ∈ (ofFilter f).calls, G x)
      (o : BinaryOperator) : ∀ x ∈ (Expr.group (join o (ofFilters fs))).calls, G x := by
    intro x hx
    rw [calls, calls_join, ofFilters_eq, List.flatMap_map, List.mem_flatMap] at hx
    obtain ⟨f, hf, hx⟩ := hx
    exact ih f hf x hx
  induction h with
  | test h => exact tests _ _ _ h
  | all _ _ ih => exact every ih .and
  | any _ _ ih => exact every ih .or
  | not _ ih =>
      intro x hx
      rw [ofFilter, calls_core, List.flatMap_singleton] at hx
      rcases List.mem_cons.1 hx with rfl | hx
      · exact negations _
      · exact ih x hx

/-- The calls of a test are calls of every filter in which it stands. -/
theorem calls_subset_of_mentions {n : Test Name} {f : Filter} (h : f.Mentions n) :
    (ofTest (ofSubject n.subject) n.relation (ofOperand (.ofValue n.value.toList))).calls ⊆
      (ofFilter f).calls := by
  have every {fs : List Filter} {f : Filter} (mem : f ∈ fs) (o : BinaryOperator) :
      (ofFilter f).calls ⊆ (Expr.group (join o (ofFilters fs))).calls := by
    intro x hx
    rw [calls, calls_join, ofFilters_eq, List.flatMap_map, List.mem_flatMap]
    exact ⟨f, mem, hx⟩
  induction h with
  | test => exact List.Subset.refl _
  | all mem _ ih => exact List.Subset.trans ih (every mem .and)
  | any mem _ ih => exact List.Subset.trans ih (every mem .or)
  | not _ ih =>
      refine List.Subset.trans ih ?_
      rw [ofFilter, calls_core, List.flatMap_singleton]
      exact List.subset_cons_self _ _

theorem mem_calls_ofPaths {paths : List Path} {x : QName × List Expr} :
    x ∈ (ofPaths paths).calls ↔ ∃ p ∈ paths, ∃ f ∈ p.filters, x ∈ (ofFilter f).calls := by
  have path (p : Path) : (ofPath p).calls = p.filters.flatMap fun f => (ofFilter f).calls := by
    rw [ofPath, calls, calls]
    cases hf : p.filters with
    | nil => simp [NodeTest.calls, callsAll]
    | cons f fs => simp [NodeTest.calls, callsAll, calls_join, ofFilters_eq, List.flatMap_map]
  rw [ofPaths, calls_join, List.flatMap_map, List.mem_flatMap]
  simp only [path, List.mem_flatMap]

end Expr

/-! ### The core library -/

/-- The functions of XPath 1.0, with the least and the greatest number of their arguments. -/
def coreLibrary : List (String × Nat × Option Nat) :=
  [("last", 0, some 0), ("position", 0, some 0), ("count", 1, some 1), ("id", 1, some 1),
    ("local-name", 0, some 1), ("namespace-uri", 0, some 1), ("name", 0, some 1),
    ("string", 0, some 1), ("concat", 2, none), ("starts-with", 2, some 2),
    ("contains", 2, some 2), ("substring-before", 2, some 2), ("substring-after", 2, some 2),
    ("substring", 2, some 3), ("string-length", 0, some 1), ("normalize-space", 0, some 1),
    ("translate", 3, some 3), ("boolean", 1, some 1), ("not", 1, some 1), ("true", 0, some 0),
    ("false", 0, some 0), ("lang", 1, some 1), ("number", 0, some 1), ("sum", 1, some 1),
    ("floor", 1, some 1), ("ceiling", 1, some 1), ("round", 1, some 1)]

/-- The function is in the core library and takes this many arguments. -/
def IsCore (function : String) (count : Nat) : Prop :=
  ∃ entry ∈ coreLibrary, entry.1 = function ∧ entry.2.1 ≤ count ∧ ∀ m ∈ entry.2.2, count ≤ m

/-- The call is one of `ends-with`, which is not in the core library. -/
def EndsWith (x : QName × List Expr) : Prop :=
  x.1 = ⟨none, "ends-with".toList⟩ ∧ x.2.length = 2

end XPath

/-! ### Queries -/

namespace Expression

open XPath (Expr QName EndsWith IsCore)

/-- An engine for XPath 1.0 can answer the call, for the function is one of those that selectors use
of the core library, or the caller has named it. -/
inductive Provides (e : Expression) : QName × List Expr → Prop
  | core {function : String} {arguments : List Expr}
      (used : function ∈ ["concat", "contains", "not", "starts-with"])
      (takes : IsCore function arguments.length) : Provides e (⟨none, function.toList⟩, arguments)
  | given {name : String} {c : Comparison} {value : String}
      (leaf : .test (.comparison (.function name) c value) ∈ e.leaves) :
      Provides e (⟨none, name.toList⟩, [])

theorem not_provides_of_endsWith {e : Expression} {x : QName × List Expr} (h : EndsWith x) :
    ¬ e.Provides x := by
  intro provides
  cases provides with
  | core used =>
      have same := String.toList_inj.1 (QName.mk.inj h.1).2
      subst same
      exact absurd used (by decide)
  | given => cases h.2

variable {e : Expression}

/-- A comparison calls a function of the core library, or `ends-with`. -/
theorem provides_or_endsWith {c : Comparison} {function : String}
    (h : XPath.Expr.functionOf c = some function) (a b : Expr) :
    e.Provides (⟨none, function.toList⟩, [a, b]) ∨
      EndsWith (⟨none, function.toList⟩, [a, b]) ∧ c = .relation .endsWith := by
  match c with
  | .relation .equals | .differs => cases h
  | .relation .contains =>
      cases h
      exact Or.inl (.core (by decide) ⟨("contains", 2, some 2), by decide, rfl, by simp, by simp⟩)
  | .relation .startsWith =>
      cases h
      exact Or.inl
        (.core (by decide) ⟨("starts-with", 2, some 2), by decide, rfl, by simp, by simp⟩)
  | .relation .endsWith =>
      cases h
      exact Or.inr ⟨⟨rfl, rfl⟩, rfl⟩

/-- The name of a function in a leaf is one that the caller has given. -/
theorem provides_given {n : Test Name} {name : Name} (hn : n.subject = .function name)
    {t : Test String} (leaf : .test t ∈ e.leaves) (subject : n.subject.text = t.subject) :
    e.Provides (⟨none, name.chars⟩, []) := by
  rw [hn] at subject
  cases t with
  | attr => cases subject
  | comparison s c value =>
      cases subject
      rw [← name.text_toList]
      exact .given leaf

/-- Strings are put together by a function of the core library. -/
theorem provides_concat {value : List Char} {ls : List XPath.Literal}
    (h : XPath.Operand.ofValue value = .concat ls) :
    e.Provides (⟨none, "concat".toList⟩, ls.map .literal) := by
  have two := XPath.Operand.two_le_length_of_ofValue h
  exact .core (by decide) ⟨("concat", 2, none), by decide, rfl, by simpa using two, by simp⟩

theorem provides_of_leaf {s : Subject Name} {c : Comparison} {o : XPath.Operand}
    (h : XPath.Writes (Formula.IsLeaf e.leaves) s c o) (x : QName × List Expr)
    (hx : x ∈ (Expr.ofTest (.ofSubject s) c (.ofOperand o)).calls) :
    e.Provides x ∨ EndsWith x ∧ ∃ t, .test t ∈ e.leaves ∧ t.relation = .relation .endsWith := by
  obtain ⟨n, ⟨t, leaf, hn⟩, rfl, rfl, rfl⟩ := h
  obtain ⟨subject, relation, -⟩ := Formula.parts_of_validTest hn
  rw [Expr.calls_ofTest] at hx
  -- The call is that of the comparison, the subject or what puts strings together.
  rcases List.mem_append.1 hx with compared | hx
  · obtain ⟨function, hf, rfl⟩ := List.mem_map.1 compared
    rcases provides_or_endsWith (Option.mem_toList.1 hf) _ _ with provides | ⟨ends, asked⟩
    · exact Or.inl provides
    · exact Or.inr ⟨ends, t, leaf, relation.symm.trans asked⟩
  · left
    rcases List.mem_append.1 hx with named | strings
    · rw [Expr.calls_ofSubject] at named
      cases hs : n.subject with
      | attr name =>
          rw [hs] at named
          cases named
      | function name =>
          rw [hs] at named
          obtain rfl := List.mem_singleton.1 named
          exact provides_given hs leaf subject
    · rw [Expr.calls_ofOperand] at strings
      cases ho : XPath.Operand.ofValue n.value.toList with
      | literal l =>
          rw [ho] at strings
          cases strings
      | concat ls =>
          rw [ho] at strings
          obtain rfl := List.mem_singleton.1 strings
          exact provides_concat ho

theorem provides_of_paths {paths : List XPath.Path}
    (made : ∀ p ∈ paths, ∀ f ∈ p.filters, f.MadeOf (XPath.Writes (Formula.IsLeaf e.leaves)))
    (x : QName × List Expr) (hx : x ∈ (Expr.ofPaths paths).calls) :
    e.Provides x ∨ EndsWith x ∧ ∃ t, .test t ∈ e.leaves ∧ t.relation = .relation .endsWith := by
  obtain ⟨p, hp, f, hf, hx⟩ := Expr.mem_calls_ofPaths.1 hx
  refine Expr.forall_calls_ofFilter (made p hp f hf) (fun s c o => provides_of_leaf) ?_ x hx
  intro inner
  exact Or.inl (.core (by decide) ⟨("not", 1, some 1), by decide, rfl, by simp, by simp⟩)

/-- A leaf that asks how a value ends is in the tree of the selector. -/
theorem exists_endsWith_of_selector {paths : List XPath.Path}
    (h : e.selector = .ok (.xpath paths)) {t : Test String} (leaf : .test t ∈ e.leaves)
    (asks : t.relation = .relation .endsWith) : ∃ x ∈ (Expr.ofPaths paths).calls, EndsWith x := by
  obtain ⟨n, hn, p, hp, f, hf, mentions⟩ := mentions_of_selector h leaf
  obtain ⟨-, relation, -⟩ := Formula.parts_of_validTest hn
  have call : (⟨none, "ends-with".toList⟩,
      [Expr.ofSubject n.subject, .ofOperand (.ofValue n.value.toList)]) ∈
        (Expr.ofTest (.ofSubject n.subject) n.relation
          (.ofOperand (.ofValue n.value.toList))).calls := by
    rw [relation, asks, Expr.calls_ofTest]
    exact List.mem_cons_self
  exact ⟨_, Expr.mem_calls_ofPaths.2 ⟨p, hp, f, hf, Expr.calls_subset_of_mentions mentions call⟩,
    rfl, rfl⟩

/-- **A query stays within XPath 1.0 exactly if no leaf asks how a value ends.**  Every function in
the one tree of an XPath query is one of the core library with as many arguments as it takes, one
that the caller has named, or `ends-with`; the last is there as soon as one leaf asks for it, also
if it is a test of an attribute that every selector language can write. -/
theorem provides_compile_iff {q : Query} (h : e.compile = .ok q) (hq : q.strategy = .xpath) :
    ∃ E, (∀ F, XPath.Parses q.value.toList F ↔ F = E) ∧
      (∀ x ∈ E.calls, e.Provides x ∨ EndsWith x) ∧
      ((∀ x ∈ E.calls, e.Provides x) ↔
        ∀ t, .test t ∈ e.leaves → t.relation ≠ .relation .endsWith) := by
  obtain ⟨paths, selector, tree, made⟩ := exists_paths_of_compile h hq
  have calls := provides_of_paths made
  refine ⟨_, tree, fun x hx => (calls x hx).imp_right And.left, ?_, ?_⟩
  · intro provides t leaf asks
    obtain ⟨x, hx, ends⟩ := exists_endsWith_of_selector selector leaf asks
    exact not_provides_of_endsWith ends (provides x hx)
  · intro none x hx
    rcases calls x hx with provides | ⟨-, t, leaf, asks⟩
    · exact provides
    · exact absurd asks (none t leaf)

theorem provides_compile_prefix :
    ∃ E, (∀ F, XPath.Parses
        "//*[(starts-with(@class,\"x\") and text()=\"y\")]".toList F ↔ F = E) ∧
      ∀ x ∈ E.calls, ((attr "class" (.relation .startsWith) "x").and
        (text (.relation .equals) "y")).Provides x := by
  have compiles : ((attr "class" (.relation .startsWith) "x").and
      (text (.relation .equals) "y")).compile =
        .ok ⟨.xpath, "//*[(starts-with(@class,\"x\") and text()=\"y\")]"⟩ := by rfl
  obtain ⟨E, tree, -, exactly⟩ := provides_compile_iff compiles rfl
  refine ⟨E, tree, exactly.2 ?_⟩
  simp [leaves, attr, text, function, Test.relation]

/-- A test of an attribute that every selector language can write, and one that only XPath can. -/
def suffixed : Expression :=
  (attr "class" (.relation .endsWith) "x").and (text (.relation .equals) "y")

/-- No comparison asks XPath how a value ends, and yet the query does, which XPath 1.0 cannot
answer. -/
theorem not_provides_compile_suffix :
    suffixed.compile = .ok ⟨.xpath, "//*[(ends-with(@class,\"x\") and text()=\"y\")]"⟩ ∧
      (∀ s v, .test (.comparison s (.relation .endsWith) v) ∉ suffixed.leaves) ∧
      ∃ E, (∀ F, XPath.Parses
          "//*[(ends-with(@class,\"x\") and text()=\"y\")]".toList F ↔ F = E) ∧
        ∃ x ∈ E.calls, ¬ suffixed.Provides x := by
  have compiles : suffixed.compile =
      .ok ⟨.xpath, "//*[(ends-with(@class,\"x\") and text()=\"y\")]"⟩ := by rfl
  have unasked (s : Subject String) (v : String) :
      .test (.comparison s (.relation .endsWith) v) ∉ suffixed.leaves := by
    simp [suffixed, leaves, attr, text, function]
  obtain ⟨paths, selector, tree, -⟩ := exists_paths_of_compile compiles rfl
  have leaf : .test (.attr "class" .endsWith "x") ∈ suffixed.leaves := List.mem_cons_self
  obtain ⟨x, hx, ends⟩ := exists_endsWith_of_selector selector leaf rfl
  exact ⟨compiles, unasked, _, tree, x, hx, not_provides_of_endsWith ends⟩

end Expression

end WebDriverClient.Locator
