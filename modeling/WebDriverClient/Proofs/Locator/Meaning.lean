/-
**What a query selects.**

A query is a text and the language that it is in.  It is read by the rules of that language, and
what has been read selects elements: compound CSS selectors, or the tree of a union of XPath paths
with predicates.  The query of an expression selects the elements of which the expression is true.

What a comparison says about an element is left open here.  It is one truth value for one
comparison, in whichever language the comparison is written.

Main definitions:

* `Locator.XPath.Expr.truth?`, `Locator.XPath.Expr.selects?` — the meaning of trees;
* `Locator.Css.ReadCompound.selects` — the meaning of compound CSS selectors;
* `Locator.Query.Selects` — the meaning of a query.

Main results:

* `Locator.XPath.Expr.selects?_ofPaths` — the tree of a union of paths selects what the paths do;
* `Locator.Expression.selects_compile_iff` — **compilation preserves meaning**.
-/

import WebDriverClient.Proofs.Locator.Css.Reading
import WebDriverClient.Proofs.Locator.Selection
import WebDriverClient.Proofs.Locator.XPath.ReadBack

set_option autoImplicit false

namespace WebDriverClient.Locator

/-! ### The meaning of trees -/

namespace XPath

/-- The comparison that a function of the language makes. -/
def comparisonOf? (function : List Char) : Option Comparison :=
  [("contains".toList, Comparison.relation .contains),
    ("starts-with".toList, Comparison.relation .startsWith),
    ("ends-with".toList, Comparison.relation .endsWith)].lookup function

/-- The element has a name that is asked for. -/
def NameTest.holds? (x : Node) : NameTest → Option Bool
  | .any => some true
  | .named ⟨none, name⟩ => some (x.tag = String.ofList name)
  | _ => none

namespace Expr

/-- What a comparison is about: an attribute, the text or other content, or a function. -/
def subject? : Expr → Option (Subject String)
  | .step .attr (.name (.named ⟨none, name⟩)) [] => some (.attr (String.ofList name))
  | .step .child (.type t) [] => some (.function t.name)
  | .call ⟨none, name⟩ [] => some (.function (String.ofList name))
  | _ => none

/-- The text between the quotes of a string. -/
def literal? : Expr → Option (List Char)
  | .literal l => some l.inner
  | _ => none

/-- The value of a string, or of two or more strings put together. -/
def string? : Expr → Option (List Char)
  | .call ⟨none, function⟩ strings =>
    if function = "concat".toList ∧ 2 ≤ strings.length then
      (strings.mapM literal?).map List.flatten
    else none
  | e => e.literal?

/-- The truth of a comparison. -/
def compare? (x : Node) (subject : Expr) (comparison : Comparison) (operand : Expr) :
    Option Bool := do
  return x.passes (← subject.subject?) comparison (String.ofList (← operand.string?))

/-- The truth of a predicate on an element. -/
def truth? (x : Node) : Expr → Option Bool
  | .binary .and l r => do return (← truth? x l) && (← truth? x r)
  | .binary .or l r => do return (← truth? x l) || (← truth? x r)
  | .binary .equal s o => compare? x s (.relation .equals) o
  | .binary .unequal s o => compare? x s .differs o
  | .group e => truth? x e
  | .call ⟨none, function⟩ [e] =>
    if function = "not".toList then (truth? x e).map (!·) else none
  | .call ⟨none, function⟩ [s, o] => do compare? x s (← comparisonOf? function) o
  | _ => none

/-- A union of paths selects an element of the document. -/
def selects? (x : Node) : Expr → Option Bool
  | .binary .union l r => do return (← selects? x l) || (← selects? x r)
  | .absolute .slashes (.step .child (.name t) predicates) => do
    return (← t.holds? x) && (← predicates.mapM (truth? x)).all id
  | _ => none

end Expr

/-! ### The meaning of written comparisons -/

namespace Expr

theorem subject?_ofSubject (s : Subject Name) : (ofSubject s).subject? = some s.text := by
  cases s with
  | attr name => rfl
  | function name =>
      rw [ofSubject]
      split
      next t ht => simp [subject?, ← NodeType.name_of_ofName? ht, Subject.text, Name.text]
      next => rfl

theorem string?_ofOperand {o : Operand} (h : ∀ ls, o = .concat ls → 2 ≤ ls.length) :
    (ofOperand o).string? = some o.denote := by
  cases o with
  | literal l => rfl
  | concat ls =>
      have strings : (ls.map Expr.literal).mapM literal? = some (ls.map (·.inner)) := by
        clear h
        induction ls with
        | nil => rfl
        | cons l ls ih => simp [literal?, ih]
      simp [ofOperand, core, string?, h ls rfl, strings, Operand.denote, List.flatMap]

theorem compare?_ofSubject (x : Node) (s : Subject Name) (c : Comparison) (value : List Char) :
    compare? x (ofSubject s) c (ofOperand (.ofValue value)) =
      some (x.passes s.text c (String.ofList value)) := by
  have operand : (ofOperand (.ofValue value)).string? = some (Operand.ofValue value).denote :=
    string?_ofOperand fun _ => Operand.two_le_length_of_ofValue
  simp [compare?, subject?_ofSubject, operand, Operand.denote_ofValue]

/-- The tree of a comparison is true where the comparison holds. -/
theorem truth?_ofTest (x : Node) (s c : Expr) (comparison : Comparison) :
    truth? x (ofTest s comparison c) = compare? x s comparison c := by
  match comparison with
  | .relation .equals => rw [ofTest, truth?]
  | .differs => rw [ofTest, truth?]
  | .relation .contains => rfl
  | .relation .startsWith => rfl
  | .relation .endsWith => rfl

/-- Expressions with an operator between them have the value of their values with a connective
between them, where two with the operator have that of theirs. -/
theorem eval_join {α : Type} {o : BinaryOperator} {connective : Bool → Bool → Bool}
    {eval : Expr → Option Bool}
    (binary : ∀ l r a b, eval l = some a → eval r = some b →
      eval (.binary o l r) = some (connective a b))
    {tree : α → Expr} {value : α → Bool} {a : α} {as : List α}
    (h : ∀ b ∈ a :: as, eval (tree b) = some (value b)) :
    eval (join o ((a :: as).map tree)) = some ((as.map value).foldl connective (value a)) := by
  -- What has been joined so far is one left operand of the others.
  have grow : ∀ (as : List α) (L : Expr) (l : Bool), eval L = some l →
      (∀ b ∈ as, eval (tree b) = some (value b)) →
        eval ((as.map tree).foldl (.binary o) L) = some ((as.map value).foldl connective l) := by
    intro as
    induction as with
    | nil =>
        intro L l hL _
        exact hL
    | cons b as ih =>
        intro L l hL h
        obtain ⟨hb, has⟩ := List.forall_mem_cons.1 h
        exact ih _ _ (binary _ _ _ _ hL hb) has
  obtain ⟨ha, has⟩ := List.forall_mem_cons.1 h
  exact grow as _ _ ha has

theorem foldl_and (bs : List Bool) (b : Bool) : bs.foldl (· && ·) b = (b && bs.all id) := by
  induction bs generalizing b with
  | nil => simp
  | cons c bs ih => simp [ih, Bool.and_assoc]

theorem foldl_or (bs : List Bool) (b : Bool) : bs.foldl (· || ·) b = (b || bs.any id) := by
  induction bs generalizing b with
  | nil => simp
  | cons c bs ih => simp [ih, Bool.or_assoc]

theorem truth?_join_and {x : Node} {fs : List Filter} (hne : fs ≠ [])
    (h : ∀ f ∈ fs, truth? x (ofFilter f) = some (f.holds x)) :
    truth? x (join .and (ofFilters fs)) = some (fs.all (Filter.holds x)) := by
  cases fs with
  | nil => exact absurd rfl hne
  | cons f fs =>
      have binary : ∀ l r a b, truth? x l = some a → truth? x r = some b →
          truth? x (.binary .and l r) = some (a && b) := by
        intro l r a b hl hr
        simp [truth?, hl, hr]
      rw [ofFilters_eq, eval_join binary h, foldl_and]
      simp

theorem truth?_join_or {x : Node} {fs : List Filter} (hne : fs ≠ [])
    (h : ∀ f ∈ fs, truth? x (ofFilter f) = some (f.holds x)) :
    truth? x (join .or (ofFilters fs)) = some (fs.any (Filter.holds x)) := by
  cases fs with
  | nil => exact absurd rfl hne
  | cons f fs =>
      have binary : ∀ l r a b, truth? x l = some a → truth? x r = some b →
          truth? x (.binary .or l r) = some (a || b) := by
        intro l r a b hl hr
        simp [truth?, hl, hr]
      rw [ofFilters_eq, eval_join binary h, foldl_or]
      simp

/-- The tree of a filter is true where the filter holds. -/
theorem truth?_ofFilter {x : Node} {f : Filter} (h : f.MadeOf Quotes) :
    truth? x (ofFilter f) = some (f.holds x) := by
  induction h with
  | @test s c o h =>
      obtain ⟨value, rfl⟩ := h
      rw [ofFilter, truth?_ofTest, compare?_ofSubject, Filter.holds, Operand.denote_ofValue]
  | all hne _ ih =>
      rw [ofFilter, truth?, truth?_join_and hne ih, Filter.holds, Filter.holdAll_eq]
  | any hne _ ih =>
      rw [ofFilter, truth?, truth?_join_or hne ih, Filter.holds, Filter.holdAny_eq]
  | not _ ih =>
      simp [ofFilter, core, truth?, ih, Filter.holds]

theorem holds?_ofTag (x : Node) (tag : Option Name) :
    (NameTest.ofTag tag).holds? x = some (tag.all x.hasTag) := by
  cases tag <;> rfl

/-- The tree of a path selects what the path does. -/
theorem selects?_ofPath {x : Node} {p : Path} (h : ∀ f ∈ p.filters, f.MadeOf Quotes) :
    selects? x (ofPath p) = some (p.selects x) := by
  rw [ofPath, selects?, holds?_ofTag, Path.selects]
  by_cases hf : p.filters = []
  · simp [hf]
  · have predicate := truth?_join_and (x := x) hf fun f hf => truth?_ofFilter (h f hf)
    simp [hf, predicate]

/-- **The tree of a union of paths selects what the paths do.** -/
theorem selects?_ofPaths {x : Node} {paths : List Path} (hne : paths ≠ [])
    (h : ∀ p ∈ paths, ∀ f ∈ p.filters, f.MadeOf Quotes) :
    selects? x (ofPaths paths) = some (paths.any (Path.selects x)) := by
  cases paths with
  | nil => exact absurd rfl hne
  | cons p ps =>
      have binary : ∀ l r a b, selects? x l = some a → selects? x r = some b →
          selects? x (.binary .union l r) = some (a || b) := by
        intro l r a b hl hr
        simp [selects?, hl, hr]
      rw [ofPaths, eval_join binary fun p hp => selects?_ofPath (h p hp), foldl_or]
      simp

end Expr

end XPath

/-! ### The meaning of compound CSS selectors -/

namespace Css

/-- The element passes a test that has been read. -/
def ReadAttribute.holds (x : Node) (a : ReadAttribute) : Bool :=
  x.passes (.attr (String.ofList a.name)) (.relation a.relation) (String.ofList a.value)

/-- The element has the tag, if one is asked, and passes the tests. -/
def ReadCompound.selects (x : Node) (c : ReadCompound) : Bool :=
  c.tag.all (fun t => x.tag = String.ofList t) && c.attributes.all (ReadAttribute.holds x)

theorem selects_read (x : Node) (c : Compound) : c.read.selects x = c.selects x := by
  have tests : ∀ a : Attribute, a.read.holds x = a.holds x := by
    intro a
    simp [ReadAttribute.holds, Attribute.read, Attribute.holds, Name.text]
  have all : (c.attributes.map Attribute.read).all (ReadAttribute.holds x) =
      c.attributes.all (Attribute.holds x) := by
    rw [List.all_map]
    exact congrArg c.attributes.all (funext tests)
  rw [ReadCompound.selects, Compound.read, Compound.selects, all]
  cases c.tag <;> rfl

end Css

/-! ### The meaning of queries -/

/-- The query selects the element: the text is read in the language of the query, and what has been
read selects the element. -/
def Query.Selects (x : Node) (q : Query) : Prop :=
  match q.strategy with
  | .css => ∃ cs, Css.Reads q.value.toList cs ∧ ∃ c ∈ cs, c.selects x = true
  | .xpath => ∃ E, XPath.Parses q.value.toList E ∧ E.selects? x = some true
  | .linkText => x.shows q.value false = true
  | .partialLinkText => x.shows q.value true = true
  | .tagName => x.tag = q.value

/-- A written selector selects what the selector does. -/
theorem Selector.selects_toQuery {P : Test Name → Prop} {s : Selector} (h : s.MadeOf P) (x : Node) :
    s.toQuery.Selects x ↔ s.selects x = true := by
  cases s with
  | css selectors =>
      have reads := Css.reads_render h.1 h.2
      have text : (Selector.css selectors).toQuery.value.toList = Css.render selectors :=
        String.toList_ofList
      rw [selects, List.any_eq_true]
      constructor
      · rintro ⟨cs, hcs, c, hc, hx⟩
        rw [text] at hcs
        obtain rfl := hcs.unique reads
        obtain ⟨d, hd, rfl⟩ := List.mem_map.1 hc
        exact ⟨d, hd, by rwa [← Css.selects_read]⟩
      · rintro ⟨c, hc, hx⟩
        exact ⟨_, text ▸ reads, c.read, List.mem_map_of_mem hc, by rwa [Css.selects_read]⟩
  | xpath paths =>
      have quotes : ∀ p ∈ paths, ∀ f ∈ p.filters, f.MadeOf XPath.Quotes :=
        fun p hp f hf => (h.2 p hp f hf).quotes
      have parses := XPath.parses_render h.1 quotes
      have text : (Selector.xpath paths).toQuery.value.toList = XPath.render paths :=
        String.toList_ofList
      have selected := XPath.Expr.selects?_ofPaths (x := x) h.1 quotes
      constructor
      · rintro ⟨E, hE, hx⟩
        rw [text] at hE
        obtain rfl := hE.unique parses
        rw [selected] at hx
        exact Option.some.inj hx
      · intro hx
        exact ⟨_, text ▸ parses, by rw [selected]; exact congrArg some hx⟩
  | linkText text part => cases part <;> rfl
  | tagName t => simp [toQuery, Query.Selects, selects, Node.hasTag]

namespace Expression

/-- **Compilation preserves meaning**: the query of an expression selects exactly the elements of
which the expression is true. -/
theorem selects_compile_iff {e : Expression} {q : Query} (h : e.compile = .ok q) (x : Node) :
    q.Selects x ↔ e.holds x = true := by
  obtain ⟨s, hs, h⟩ := Except.bind_eq_ok_iff.1 h
  cases h
  rw [Selector.selects_toQuery (madeOf_of_selector hs), selects_of_selector hs]

theorem selects_compile_two_tags :
    (⟨.xpath, "//div[not(@id=\"a\")] | //p"⟩ : Query).Selects
      ⟨"div", fun _ _ _ => false, fun _ _ => false⟩ := by
  have compiles : (((tag ⟨"div"⟩).and (attr "id" (.relation .equals) "a").not).or
      (tag ⟨"p"⟩)).compile = .ok ⟨.xpath, "//div[not(@id=\"a\")] | //p"⟩ := by rfl
  exact (selects_compile_iff compiles _).2 rfl

end Expression

end WebDriverClient.Locator
