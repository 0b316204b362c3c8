/-
**Searches below an element.**

An XPath query that begins at the document finds elements anywhere, also when it is asked of one
element.  With a period before each of its paths it begins at that element instead.  Location paths
are evaluated here as the XPath recommendation says, step by step through the nodes of a document,
and what an anchored query selects from an element is what lies below the element among all that the
query selects.

What a comparison says about an element is left open.  A step asks it of the element as one of the
children with a name, because functions may count these.

Main definitions:

* `Locator.Below` — an element lies below another, or below the document itself;
* `Locator.Document` — elements in a tree, with what selectors can see of them;
* `Locator.XPath.Expr.Leads` — a location path leads from a node to a node;
* `Locator.Query.SelectsFrom` — a query, asked of a node, selects an element.

Main results:

* `Locator.XPath.parses_anchored` — the tree of anchored paths;
* `Locator.Expression.anchored_compile` — **an anchored query is the query with a period before each
  path, and selects below an element what the query selects in the document**.
-/

import WebDriverClient.Proofs.Locator.Meaning
import WebDriverClient.Proofs.Locator.XPath.Anchoring

set_option autoImplicit false

namespace WebDriverClient.Locator

/-! ### Documents -/

section

variable {ε : Type}

/-- An element lies below a node, which is an element or, as `none`, the document itself. -/
inductive Below (parent : ε → Option ε) : Option ε → ε → Prop
  | child (x : ε) : Below parent (parent x) x
  | deeper {n : Option ε} {x y : ε} (above : parent x = some y) (h : Below parent n y) :
      Below parent n x

/-- A node is another or lies below it. -/
def AtOrBelow (parent : ε → Option ε) (n m : Option ε) : Prop :=
  m = n ∨ ∃ y, m = some y ∧ Below parent n y

/-- What lies below a node are the children of the node and of all that lies below it. -/
theorem below_iff {parent : ε → Option ε} {n : Option ε} {x : ε} :
    Below parent n x ↔ AtOrBelow parent n (parent x) := by
  constructor
  · intro h
    cases h with
    | child => exact .inl rfl
    | deeper above h => exact .inr ⟨_, above, h⟩
  · rintro (same | ⟨y, above, h⟩)
    · exact same ▸ .child x
    · exact .deeper above h

end

/-- The elements of a document, with what selectors can see of them. -/
structure Document where
  Element : Type
  /-- The element above an element, if it is not the document that is. -/
  parent : Element → Option Element
  rooted : ∀ x, Below parent none x
  tag : Element → String
  /-- Whether a comparison with a value holds of an element as one of the children with a name. -/
  passes : XPath.NameTest → Element → Subject String → Comparison → String → Bool
  /-- Whether an element is a link with a visible text, or with a text that contains one. -/
  shows : Element → String → Bool → Bool

/-- What selectors can see of an element as one of the children with a name. -/
def Document.view (d : Document) (t : XPath.NameTest) (x : d.Element) : Node :=
  ⟨d.tag x, d.passes t x, d.shows x⟩

/-! ### Location paths -/

namespace XPath

/-- A location path leads from a node to a node.  No step of a selector has more than one
predicate. -/
inductive Expr.Leads (d : Document) : Expr → Option d.Element → Option d.Element → Prop
  | left {l r : Expr} {n m : Option d.Element} (h : Leads d l n m) :
      Leads d (.binary .union l r) n m
  | right {l r : Expr} {n m : Option d.Element} (h : Leads d r n m) :
      Leads d (.binary .union l r) n m
  | self (n : Option d.Element) : Leads d .self n n
  /-- The path begins at the document, wherever it is asked. -/
  | absolute {path : Expr} {n k m : Option d.Element} (down : AtOrBelow d.parent none k)
      (h : Leads d path k m) : Leads d (.absolute .slashes path) n m
  | further {path step : Expr} {n k j m : Option d.Element} (h : Leads d path n k)
      (down : AtOrBelow d.parent k j) (hs : Leads d step j m) :
      Leads d (.further path .slashes step) n m
  | child {t : NameTest} {predicates : List Expr} {x : d.Element}
      (name : t.holds? (d.view t x) = some true)
      (meets : ∀ p ∈ predicates, p.truth? (d.view t x) = some true) :
      Leads d (.step .child (.name t) predicates) (d.parent x) (some x)

namespace Expr

variable {d : Document} {n : Option d.Element} {x : d.Element}

/-- A child is reached from the node above it only. -/
theorem leads_child_iff {t : NameTest} {predicates : List Expr} :
    (Expr.step .child (.name t) predicates).Leads d n (some x) ↔
      n = d.parent x ∧ (Expr.step .child (.name t) predicates).Leads d (d.parent x) (some x) := by
  constructor
  · intro h
    cases h with
    | child name meets => exact ⟨rfl, .child name meets⟩
  · rintro ⟨rfl, h⟩
    exact h

/-- From the document on, a step leads to every element that it asks for. -/
theorem leads_anywhere_iff {t : NameTest} {predicates : List Expr} :
    (Expr.absolute .slashes (.step .child (.name t) predicates)).Leads d n (some x) ↔
      (Expr.step .child (.name t) predicates).Leads d (d.parent x) (some x) := by
  constructor
  · intro h
    cases h with
    | absolute _ h => exact (leads_child_iff.1 h).2
  · intro h
    exact .absolute (below_iff.1 (d.rooted x)) h

/-- From a node on, it leads to those of them that lie below the node. -/
theorem leads_below_iff {t : NameTest} {predicates : List Expr} :
    (Expr.further .self .slashes (.step .child (.name t) predicates)).Leads d n (some x) ↔
      Below d.parent n x ∧
        (Expr.step .child (.name t) predicates).Leads d (d.parent x) (some x) := by
  rw [below_iff]
  constructor
  · intro h
    cases h with
    | further first down hs =>
        cases first
        obtain ⟨rfl, hs⟩ := leads_child_iff.1 hs
        exact ⟨down, hs⟩
  · rintro ⟨down, h⟩
    exact .further (.self n) down h

/-- A union leads where one of its branches does. -/
theorem leads_join_iff {es : List Expr} {m : Option d.Element} (hne : es ≠ []) :
    (join .union es).Leads d n m ↔ ∃ e ∈ es, e.Leads d n m := by
  -- What has been joined so far is one left operand of the others.
  have grow : ∀ (es : List Expr) (L : Expr),
      (es.foldl (.binary .union) L).Leads d n m ↔ L.Leads d n m ∨ ∃ e ∈ es, e.Leads d n m := by
    intro es
    induction es with
    | nil => simp
    | cons e es ih =>
        intro L
        have both : (Expr.binary .union L e).Leads d n m ↔ L.Leads d n m ∨ e.Leads d n m := by
          constructor
          · intro h
            cases h with
            | left h => exact .inl h
            | right h => exact .inr h
          · rintro (h | h)
            · exact .left h
            · exact .right h
        simp only [List.foldl_cons, ih, both, or_assoc, List.mem_cons, exists_eq_or_imp]
  cases es with
  | nil => exact absurd rfl hne
  | cons e es => simp only [join, grow, List.mem_cons, exists_eq_or_imp]

end Expr

/-! ### Anchored paths -/

/-- The text of a union of paths with a period before each. -/
def renderAnchored (paths : List Path) : List Char :=
  " | ".toList.intercalate (paths.map fun p => '.' :: p.render)

/-- The tree of a path with a period before it. -/
def Expr.ofAnchored (p : Path) : Expr := .further .self .slashes (.stepOf p)

/-- The tree of anchored paths. -/
theorem parses_anchored {paths : List Path} (hne : paths ≠ [])
    (h : ∀ p ∈ paths, ∀ f ∈ p.filters, f.MadeOf Quotes) :
    Parses (renderAnchored paths) (.join .union (paths.map .ofAnchored)) := by
  have branches : ∀ b ∈ paths.map fun p => ('.' :: p.render, Expr.ofAnchored p),
      Spells .path b.1 b.2 := List.forall_mem_map.2 fun p hp => (spells_step (h p hp)).below
  have union := Spells.join spellsOperator_union (by simpa using hne) branches
  have whole := Spells.chain_of_union union .or
  simpa [renderAnchored, Function.comp_def] using whole.parses

/-- **Anchored paths lead from a node to what lies below it among all that the paths lead to.** -/
theorem leads_anchored_iff {d : Document} {paths : List Path} (hne : paths ≠ [])
    (n m : Option d.Element) (x : d.Element) :
    (Expr.join .union (paths.map .ofAnchored)).Leads d n (some x) ↔
      Below d.parent n x ∧ (Expr.ofPaths paths).Leads d m (some x) := by
  have anywhere (p : Path) : (Expr.ofPath p).Leads d m (some x) ↔
      (Expr.stepOf p).Leads d (d.parent x) (some x) := Expr.leads_anywhere_iff
  have below (p : Path) : (Expr.ofAnchored p).Leads d n (some x) ↔
      Below d.parent n x ∧ (Expr.stepOf p).Leads d (d.parent x) (some x) := Expr.leads_below_iff
  rw [Expr.ofPaths, Expr.leads_join_iff (by simpa using hne),
    Expr.leads_join_iff (by simpa using hne)]
  simp only [List.mem_map, exists_exists_and_eq_and, anywhere, below]
  constructor
  · rintro ⟨p, hp, under, h⟩
    exact ⟨under, p, hp, h⟩
  · rintro ⟨under, p, hp, h⟩
    exact ⟨p, hp, under, h⟩

end XPath

/-! ### Queries -/

namespace Query

/-- A query, asked of a node, selects an element.  XPath is evaluated from the node; in the other
strategies only what lies below the node is looked at. -/
def SelectsFrom (d : Document) (n : Option d.Element) (q : Query) (x : d.Element) : Prop :=
  match q.strategy with
  | .xpath => ∃ E, XPath.Parses q.value.toList E ∧ E.Leads d n (some x)
  | _ => Below d.parent n x ∧ q.Selects (d.view .any x)

theorem anchored_of_ne_xpath {q : Query} (h : q.strategy ≠ .xpath) : q.anchored = q := by
  obtain ⟨strategy, value⟩ := q
  cases strategy with
  | xpath => exact absurd rfl h
  | css | linkText | partialLinkText | tagName => rfl

/-- In the other strategies a query is asked of an element as it is. -/
theorem selectsFrom_of_ne_xpath {q : Query} (h : q.strategy ≠ .xpath) (d : Document)
    (c x : d.Element) :
    q.SelectsFrom d (some c) x ↔ Below d.parent (some c) x ∧ q.SelectsFrom d none x := by
  have scope (n : Option d.Element) :
      q.SelectsFrom d n x ↔ Below d.parent n x ∧ q.Selects (d.view .any x) := by
    obtain ⟨strategy, value⟩ := q
    cases strategy with
    | xpath => exact absurd rfl h
    | css | linkText | partialLinkText | tagName => exact Iff.rfl
  rw [scope, scope]
  simp [d.rooted x]

theorem selectsFrom_xpath {value : List Char} {E : XPath.Expr} (h : XPath.Parses value E)
    (d : Document) (n : Option d.Element) (x : d.Element) :
    (⟨.xpath, String.ofList value⟩ : Query).SelectsFrom d n x ↔ E.Leads d n (some x) := by
  constructor
  · rintro ⟨F, hF, leads⟩
    rw [String.toList_ofList] at hF
    rwa [h.unique hF]
  · intro leads
    exact ⟨E, by rwa [String.toList_ofList], leads⟩

end Query

namespace Expression

/-- **An anchored query selects below an element what the query selects in the document.**  An XPath
query is anchored by a period before each of its paths and by nothing else; a query in another
strategy stays as it is. -/
theorem anchored_compile {e : Expression} {q : Query} (h : e.compile = .ok q) :
    (q.strategy = .xpath → ∃ paths, e.selector = .ok (.xpath paths) ∧
      q = ⟨.xpath, String.ofList (" | ".toList.intercalate (paths.map XPath.Path.render))⟩ ∧
      q.anchored = ⟨.xpath, String.ofList
        (" | ".toList.intercalate (paths.map fun p => '.' :: p.render))⟩) ∧
    (q.strategy ≠ .xpath → q.anchored = q) ∧
    ∀ (d : Document) (c x : d.Element), q.anchored.SelectsFrom d (some c) x ↔
      Below d.parent (some c) x ∧ q.SelectsFrom d none x := by
  by_cases xpath : q.strategy = .xpath
  · obtain ⟨paths, selector, -, made⟩ := exists_paths_of_compile h xpath
    have quotes : ∀ p ∈ paths, ∀ f ∈ p.filters, f.MadeOf XPath.Quotes :=
      fun p hp f hf => (made p hp f hf).quotes
    obtain ⟨hne, -⟩ := madeOf_of_selector selector
    have query : q = ⟨.xpath, String.ofList (XPath.render paths)⟩ := by
      rw [compile, selector] at h
      cases h
      rfl
    have anchored : q.anchored = ⟨.xpath, String.ofList (XPath.renderAnchored paths)⟩ := by
      rw [query, Query.anchored, String.toList_ofList, XPath.anchor_render quotes]
      rfl
    refine ⟨fun _ => ⟨paths, selector, query, anchored⟩, fun other => absurd xpath other, ?_⟩
    intro d c x
    rw [anchored, query, Query.selectsFrom_xpath (XPath.parses_anchored hne quotes),
      Query.selectsFrom_xpath (XPath.parses_render hne quotes),
      XPath.leads_anchored_iff hne (some c) none x]
  · have same := Query.anchored_of_ne_xpath xpath
    refine ⟨fun is => absurd is xpath, fun _ => same, fun d c x => ?_⟩
    rw [same, Query.selectsFrom_of_ne_xpath xpath]

theorem anchored_compile_quoted_union :
    (⟨.xpath, "//p[text()=concat(\"it's | //b[\", '\"', \"\")] | //a"⟩ : Query).anchored =
      ⟨.xpath, ".//p[text()=concat(\"it's | //b[\", '\"', \"\")] | .//a"⟩ := by
  have compiles : (((tag ⟨"p"⟩).and (text (.relation .equals) "it's | //b[\"")).or
      (tag ⟨"a"⟩)).compile =
        .ok ⟨.xpath, "//p[text()=concat(\"it's | //b[\", '\"', \"\")] | //a"⟩ := by rfl
  obtain ⟨paths, selector, -, anchored⟩ := (anchored_compile compiles).1 rfl
  cases selector
  exact anchored

end Expression

end WebDriverClient.Locator
