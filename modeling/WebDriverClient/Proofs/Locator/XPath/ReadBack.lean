/-
**Reading a written selector back.**

The text of an XPath selector has one tree by the grammar of the language, and it is the tree that
the selector stands for: no name and no value ends a string, changes a predicate or adds a branch.
A name before parentheses that is a type of nodes is read as one, in place of a function.

Main definitions:

* `XPath.Expr.ofSubject`, `XPath.Expr.ofOperand`, `XPath.Expr.ofTest`, `XPath.Expr.ofFilter`,
  `XPath.Expr.ofPath`, `XPath.Expr.ofPaths` — the trees of selectors;
* `XPath.Path.renderStep` — the text of a path behind its slashes.

Main results:

* `XPath.parses_render` — a written union of paths has its tree;
* `Locator.Expression.parses_compile_iff` — **the query of an expression has one tree, which is made
  of the leaves of the expression**.
-/

import WebDriverClient.Proofs.Locator.Tests
import WebDriverClient.Proofs.Locator.XPath.Operand
import WebDriverClient.Proofs.Locator.XPath.Spelling
import WebDriverClient.Proofs.Locator.XPath.Unambiguous

set_option autoImplicit false

namespace WebDriverClient.Locator.XPath

/-! ### Trees of selectors -/

namespace Expr

/-- A function of the language with its arguments. -/
def core (function : String) (arguments : List Expr) : Expr :=
  .call ⟨none, function.toList⟩ arguments

/-- The tree of an operand. -/
def ofOperand : Operand → Expr
  | .literal l => .literal l
  | .concat ls => core "concat" (ls.map .literal)

/-- The tree of a subject. -/
def ofSubject : Subject Name → Expr
  | .attr name => .step .attr (.name (.named ⟨none, name.chars⟩)) []
  | .function name =>
    match NodeType.ofName? name.chars with
    | some t => .step .child (.type t) []
    | none => .call ⟨none, name.chars⟩ []

/-- The tree of a comparison. -/
def ofTest (subject : Expr) (comparison : Comparison) (operand : Expr) : Expr :=
  match comparison with
  | .relation .equals => .binary .equal subject operand
  | .differs => .binary .unequal subject operand
  | .relation .contains => core "contains" [subject, operand]
  | .relation .startsWith => core "starts-with" [subject, operand]
  | .relation .endsWith => core "ends-with" [subject, operand]

mutual

/-- The tree of a filter. -/
def ofFilter : Filter → Expr
  | .test s c o => ofTest (ofSubject s) c (ofOperand o)
  | .all fs => .group (join .and (ofFilters fs))
  | .any fs => .group (join .or (ofFilters fs))
  | .not f => core "not" [ofFilter f]

/-- The trees of filters. -/
def ofFilters : List Filter → List Expr
  | [] => []
  | f :: fs => ofFilter f :: ofFilters fs

end

/-- The tree of the step of a path. -/
def stepOf (p : Path) : Expr :=
  .step .child (.name (.ofTag p.tag))
    (if p.filters.isEmpty then [] else [join .and (ofFilters p.filters)])

/-- The tree of a path. -/
def ofPath (p : Path) : Expr :=
  .absolute .slashes (.step .child (.name (.ofTag p.tag))
    (if p.filters.isEmpty then [] else [join .and (ofFilters p.filters)]))

/-- The tree of a union of paths. -/
def ofPaths (paths : List Path) : Expr := join .union (paths.map ofPath)

end Expr

/-! ### Comparisons -/

theorem spells_literal {l : Literal} (h : l.Closed) : Spells .primary l.render (.literal l) :=
  .literal h.1 h.2

/-- A function of the language before its arguments. -/
theorem spells_core {function : String} (hn : isName function.toList = true)
    (hf : NodeType.ofName? function.toList = none) {gap : List Char} (hg : gap.all isSpace = true)
    {ps : List (List Char × Expr)} (h : ∀ p ∈ ps, Spells (.chain .or) p.1 p.2) :
    Spells .primary
      (function.toList ++ '(' :: (',' :: gap).intercalate (ps.map Prod.fst) ++ [')'])
      (Expr.core function (ps.map Prod.snd)) :=
  .call hn hf hg h

theorem spells_operand {o : Operand} (h : ∀ l ∈ o.literals, l.Closed) :
    Spells .primary o.render (.ofOperand o) := by
  cases o with
  | literal l => exact spells_literal (h l (List.mem_singleton_self l))
  | concat ls =>
      have strings : ∀ p ∈ ls.map fun l => (l.render, Expr.literal l),
          Spells (.chain .or) p.1 p.2 :=
        List.forall_mem_map.2 fun l hl => (spells_literal (h l hl)).path_of_primary.chain_of_path .or
      have space : [' '].all isSpace = true := rfl
      have name : isName "concat".toList = true := by decide
      have call := spells_core name (by decide) space strings
      have text : (Operand.concat ls).render =
          "concat".toList ++ '(' :: [',', ' '].intercalate (ls.map Literal.render) ++ [')'] := rfl
      rw [text, Expr.ofOperand]
      simpa only [List.map_map, Function.comp_def] using call

theorem spells_subject (s : Subject Name) : Spells .path (renderSubject s) (.ofSubject s) := by
  cases s with
  | attr name => exact (Spells.attribute name).path_of_step
  | function name =>
      rw [Expr.ofSubject]
      split
      next t ht => exact (Spells.nodeType name.valid ht).path_of_step
      next hf =>
        have no_gap : ([] : List Char).all isSpace = true := rfl
        have no_arguments : ∀ p ∈ ([] : List (List Char × Expr)), Spells (.chain .or) p.1 p.2 := by
          simp
        simpa [renderSubject] using (Spells.call name.valid hf no_gap no_arguments).path_of_primary

theorem spells_call {function : String} (hn : isName function.toList = true)
    (hf : NodeType.ofName? function.toList = none) {subject operand : List Char} {S O : Expr}
    (hs : Spells .path subject S) (ho : Spells .primary operand O) :
    Spells .primary (call function subject operand) (Expr.core function [S, O]) := by
  have no_gap : ([] : List Char).all isSpace = true := rfl
  have arguments : ∀ p ∈ [(subject, S), (operand, O)], Spells (.chain .or) p.1 p.2 := by
    simpa using ⟨hs.chain_of_path .or, ho.path_of_primary.chain_of_path .or⟩
  simpa [call, List.intercalate] using spells_core hn hf no_gap arguments

theorem spells_test {subject operand : List Char} {S O : Expr} (hs : Spells .path subject S)
    (ho : Spells .primary operand O) (c : Comparison) :
    Spells (.chain .equality) (renderTest subject c operand) (.ofTest S c O) := by
  have left := hs.chain_of_path .equality
  have right := ho.path_of_primary.chain_of_path .relational
  match c with
  | .relation .equals =>
      simpa [renderTest, Expr.ofTest, BinaryOperator.level] using
        Spells.binary spellsOperator_equal left right
  | .differs =>
      simpa [renderTest, Expr.ofTest, BinaryOperator.level] using
        Spells.binary spellsOperator_unequal left right
  | .relation .contains =>
      exact (spells_call (by decide) (by decide) hs ho).path_of_primary.chain_of_path .equality
  | .relation .startsWith =>
      exact (spells_call (by decide) (by decide) hs ho).path_of_primary.chain_of_path .equality
  | .relation .endsWith =>
      exact (spells_call (by decide) (by decide) hs ho).path_of_primary.chain_of_path .equality

/-! ### Filters and paths -/

theorem renderAll_eq (fs : List Filter) : Filter.renderAll fs = fs.map Filter.render := by
  induction fs with
  | nil => rfl
  | cons f fs ih => rw [Filter.renderAll, ih, List.map_cons]

theorem ofFilters_eq (fs : List Filter) : Expr.ofFilters fs = fs.map Expr.ofFilter := by
  induction fs with
  | nil => rfl
  | cons f fs ih => rw [Expr.ofFilters, ih, List.map_cons]

/-- The operands of all tests are made for values. -/
def Quotes (_ : Subject Name) (_ : Comparison) (o : Operand) : Prop := ∃ value, o = .ofValue value

theorem Filter.MadeOf.quotes {P : Test Name → Prop} {f : Filter} (h : f.MadeOf (Writes P)) :
    f.MadeOf Quotes :=
  h.mono fun _ _ _ ⟨_, _, _, _, ho⟩ => ⟨_, ho⟩

theorem spells_conj {fs : List Filter} (hne : fs ≠ [])
    (h : ∀ f ∈ fs, Spells (.chain .equality) f.render (.ofFilter f)) :
    Spells (.chain .and) (" and ".toList.intercalate (Filter.renderAll fs))
      (.join .and (Expr.ofFilters fs)) := by
  have operands : ∀ p ∈ fs.map fun f => (f.render, Expr.ofFilter f),
      Spells (.chain .equality) p.1 p.2 := List.forall_mem_map.2 h
  have joined := Spells.join spellsOperator_and (by simpa using hne) operands
  simpa [renderAll_eq, ofFilters_eq, Function.comp_def, BinaryOperator.level] using joined

theorem spells_disj {fs : List Filter} (hne : fs ≠ [])
    (h : ∀ f ∈ fs, Spells (.chain .equality) f.render (.ofFilter f)) :
    Spells (.chain .or) (" or ".toList.intercalate (Filter.renderAll fs))
      (.join .or (Expr.ofFilters fs)) := by
  have operands : ∀ p ∈ fs.map fun f => (f.render, Expr.ofFilter f), Spells (.chain .and) p.1 p.2 :=
    List.forall_mem_map.2 fun f hf => Spells.operand (l := .and) (h f hf)
  have joined := Spells.join spellsOperator_or (by simpa using hne) operands
  simpa [renderAll_eq, ofFilters_eq, Function.comp_def, BinaryOperator.level] using joined

/-- A written filter spells its tree. -/
theorem spells_filter {f : Filter} (h : f.MadeOf Quotes) :
    Spells (.chain .equality) f.render (.ofFilter f) := by
  induction h with
  | @test s c o h =>
      obtain ⟨value, rfl⟩ := h
      exact spells_test (spells_subject s) (spells_operand (Operand.closed_ofValue value)) c
  | all hne _ ih =>
      have group := (Spells.operand (l := .or) (spells_conj hne ih)).group
      simpa [Filter.render, Expr.ofFilter] using group.path_of_primary.chain_of_path .equality
  | any hne _ ih =>
      have group := (spells_disj hne ih).group
      simpa [Filter.render, Expr.ofFilter] using group.path_of_primary.chain_of_path .equality
  | @not f _ ih =>
      have no_gap : ([] : List Char).all isSpace = true := rfl
      have inner : Spells (.chain .or) f.render (.ofFilter f) :=
        Spells.operand (l := .or) (Spells.operand (l := .and) ih)
      have argument : ∀ p ∈ [(f.render, Expr.ofFilter f)], Spells (.chain .or) p.1 p.2 := by
        simpa using inner
      have name : isName "not".toList = true := by decide
      have call := spells_core name (by decide) no_gap argument
      simpa [Filter.render, Expr.ofFilter, List.intercalate] using
        call.path_of_primary.chain_of_path .equality

/-- The text of a path behind its two slashes. -/
def Path.renderStep (p : Path) : List Char := p.render.drop 2

theorem Path.render_eq (p : Path) : p.render = '/' :: '/' :: p.renderStep := rfl

/-- What is written behind the slashes of a path spells its step. -/
theorem spells_step {p : Path} (h : ∀ f ∈ p.filters, f.MadeOf Quotes) :
    Spells .step p.renderStep (.stepOf p) := by
  unfold Path.renderStep Path.render Expr.stepOf
  cases hf : p.filters with
  | nil => simpa using Spells.child p.tag
  | cons f fs =>
      rw [hf] at h
      have conj := spells_conj (List.cons_ne_nil f fs) fun f hf => spells_filter (h f hf)
      have predicate := Spells.operand (l := .or) conj
      simpa using Spells.child_filtered p.tag predicate

/-- A written path spells its tree. -/
theorem spells_path {p : Path} (h : ∀ f ∈ p.filters, f.MadeOf Quotes) :
    Spells .path p.render (.ofPath p) := (spells_step h).anywhere

/-- A written union of paths has its tree. -/
theorem parses_render {paths : List Path} (hne : paths ≠ [])
    (h : ∀ p ∈ paths, ∀ f ∈ p.filters, f.MadeOf Quotes) :
    Parses (render paths) (.ofPaths paths) := by
  have branches : ∀ b ∈ paths.map fun p => (p.render, Expr.ofPath p), Spells .path b.1 b.2 :=
    List.forall_mem_map.2 fun p hp => spells_path (h p hp)
  have union := Spells.join spellsOperator_union (by simpa using hne) branches
  have whole := Spells.chain_of_union union .or
  simpa [render, Expr.ofPaths, Function.comp_def] using whole.parses

end XPath

/-! ### Queries -/

namespace Expression

/-- An XPath query comes from paths whose tests are leaves of the expression, and has their tree and
no other. -/
theorem exists_paths_of_compile {e : Expression} {q : Query} (h : e.compile = .ok q)
    (hq : q.strategy = .xpath) :
    ∃ paths, e.selector = .ok (.xpath paths) ∧
      (∀ E, XPath.Parses q.value.toList E ↔ E = .ofPaths paths) ∧
      ∀ p ∈ paths, ∀ f ∈ p.filters, f.MadeOf (XPath.Writes (Formula.IsLeaf e.leaves)) := by
  obtain ⟨s, hs, h⟩ := Except.bind_eq_ok_iff.1 h
  cases h
  cases s with
  | css selectors => cases hq
  | linkText text part => cases part <;> cases hq
  | tagName t => cases hq
  | xpath paths =>
      obtain ⟨hne, made⟩ := madeOf_of_selector hs
      have parses : XPath.Parses (Selector.xpath paths).toQuery.value.toList (.ofPaths paths) := by
        simpa [Selector.toQuery] using
          XPath.parses_render hne fun p hp f hf => (made p hp f hf).quotes
      refine ⟨paths, hs, fun E => ⟨fun hE => hE.unique parses, ?_⟩, made⟩
      rintro rfl
      exact parses

/-- **The query of an expression, where it is XPath, has one tree.**  It is the tree of the paths
that the expression was compiled to, and each of their tests has the name, the comparison and the
value of a leaf of the expression. -/
theorem parses_compile_iff {e : Expression} {q : Query} (h : e.compile = .ok q)
    (hq : q.strategy = .xpath) :
    ∃ paths, e.selector = .ok (.xpath paths) ∧
      (∀ E, XPath.Parses q.value.toList E ↔ E = .ofPaths paths) ∧
      ∀ p ∈ paths, ∀ f ∈ p.filters, f.MadeOf fun s c o =>
        ∃ t, .test t ∈ e.leaves ∧ s.text = t.subject ∧ c = t.relation ∧
          String.ofList o.denote = t.value := by
  obtain ⟨paths, selector, tree, made⟩ := exists_paths_of_compile h hq
  refine ⟨paths, selector, tree, fun p hp f hf => (made p hp f hf).mono ?_⟩
  rintro s c o ⟨n, ⟨t, ht, hn⟩, rfl, rfl, rfl⟩
  obtain ⟨subject, relation, value⟩ := Formula.parts_of_validTest hn
  exact ⟨t, ht, subject, relation, by simp [XPath.Operand.denote_ofValue, value]⟩

theorem parses_compile_both_quotes :
    ∃ E, ∀ F, XPath.Parses
      "//*[text()=concat(\"say \", '\"', \"it's | //a\", '\"', \"\")]".toList F ↔ F = E := by
  have compiles : (text (.relation .equals) "say \"it's | //a\"").compile =
      .ok ⟨.xpath, "//*[text()=concat(\"say \", '\"', \"it's | //a\", '\"', \"\")]"⟩ := by rfl
  obtain ⟨paths, -, tree, -⟩ := parses_compile_iff compiles rfl
  exact ⟨_, tree⟩

end Expression

end WebDriverClient.Locator
