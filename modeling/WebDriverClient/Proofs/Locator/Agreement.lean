/-
**The two forms of a selector.**

Clauses that have a CSS form have an XPath form too, and which of them is sent depends on what they
stand together with.  The two languages differ where an attribute is compared with the empty text:
in CSS no value contains it, starts with it or ends with it, while in XPath every value does, and a
missing attribute counts as empty.  They also differ where CSS reads a value otherwise than it was
given.  For all other tests the two forms select the same elements.

Main definitions:

* `Locator.Markup` — an element with its attributes;
* `Locator.Markup.inCss`, `Locator.Markup.inXPath` — what the two languages say of it;
* `Locator.Css.Attribute.IsCommon` — the tests on which they agree;
* `Locator.Css.Matches` — a CSS selector, as it is sent, matches an element.

Main results:

* `Locator.Markup.passesCss_iff` — what CSS asks of an attribute, in terms of what XPath asks;
* `Locator.Formula.IsDistributed.matches_css_iff` — what the CSS form matches, in terms of what XPath
  selects;
* `Locator.Formula.forms_agree_where_common` — **the two forms agree where all tests are common, and
  those of one test only there**.
-/

import Mathlib.Data.List.Infix
import WebDriverClient.Proofs.Locator.Css.Preprocessing
import WebDriverClient.Proofs.Locator.Meaning
import WebDriverClient.Proofs.Locator.NormalForm

set_option autoImplicit false

namespace WebDriverClient.Locator

/-! ### Elements with attributes -/

/-- An element, with what selectors can see of it. -/
structure Markup where
  tag : String
  /-- The value of an attribute, if it has the attribute. -/
  attribute? : String → Option String
  /-- Whether a comparison with the value of a function holds of it. -/
  compares : String → Comparison → String → Bool

/-- A value is related to the one that it is compared with. -/
def Relation.relates (actual value : List Char) : Relation → Bool
  | .equals => actual = value
  | .contains => value <:+: actual
  | .startsWith => value <+: actual
  | .endsWith => value <:+ actual

namespace Markup

variable (x : Markup)

/-- A comparison of an attribute in CSS.  It fails if the attribute is missing, and nothing contains
the empty text, starts with it or ends with it. -/
def passesCss (name : String) (r : Relation) (value : String) : Bool :=
  match x.attribute? name with
  | some actual => (r = .equals || value ≠ "") && r.relates actual.toList value.toList
  | none => false

/-- A comparison in XPath.  Attributes are compared as sets of none or one, and functions of texts
take a missing attribute as the empty text. -/
def passesXPath : Subject String → Comparison → String → Bool
  | .attr name, .relation .equals, value => (x.attribute? name).any (· = value)
  | .attr name, .differs, value => (x.attribute? name).any (· ≠ value)
  | .attr name, .relation r, value =>
    r.relates ((x.attribute? name).getD "").toList value.toList
  | .function name, comparison, value => x.compares name comparison value

/-- The element as CSS sees it.  Only relations of attributes can be written in CSS. -/
def inCss : Node where
  tag := x.tag
  passes
    | .attr name, .relation r, value => x.passesCss name r value
    | _, _, _ => false
  shows _ _ := false

/-- The element as XPath sees it. -/
def inXPath : Node where
  tag := x.tag
  passes := x.passesXPath
  shows _ _ := false

end Markup

/-- A CSS selector, as it is sent, matches an element. -/
def Css.Matches (x : Node) (text : List Char) : Prop :=
  ∃ cs, Css.Reads (Css.preprocess text) cs ∧ ∃ c ∈ cs, c.selects x = true

/-! ### One test -/

namespace Css.Attribute

/-- The value is read as it was given, and is not the empty text that is looked for in another. -/
structure IsCommon (a : Attribute) : Prop where
  /-- Only for equality may the value be empty. -/
  asks : a.relation = .equals ∨ a.value ≠ ""
  /-- No character of it is read as another. -/
  plain : ∀ c ∈ a.value.toList, c ≠ '\r' ∧ c ≠ '\x0c' ∧ c ≠ '\x00'

theorem IsCommon.isUnbroken {a : Attribute} (h : a.IsCommon) : a.IsUnbroken := by
  intro c hc
  obtain ⟨hr, hf, -⟩ := h.plain c hc
  simp [isBreak, hr, hf]

theorem seen_eq_self_iff {a : Attribute} : a.seen = a ↔ ∀ c ∈ a.value.toList, replaced c = c := by
  rw [← read_seen_iff]
  refine ⟨fun h => by rw [h], fun h => ?_⟩
  obtain ⟨name, relation, value⟩ := a
  have same : value.toList.map replaced = value.toList := by
    simpa [seen, read] using h
  simp [seen, same]

theorem IsCommon.seen_eq {a : Attribute} (h : a.IsCommon) : a.seen = a :=
  seen_eq_self_iff.2 fun c hc => replaced_eq_self_iff.2 (h.plain c hc)

end Css.Attribute

/-- What has the length of a text and is found in it is the text. -/
theorem Relation.eq_of_relates {actual value : List Char} {r : Relation}
    (h : r.relates actual value = true) (same : value.length = actual.length) : value = actual := by
  cases r with
  | equals => exact (of_decide_eq_true h).symm
  | contains => exact (of_decide_eq_true h).eq_of_length same
  | startsWith => exact (of_decide_eq_true h).eq_of_length same
  | endsWith => exact (of_decide_eq_true h).eq_of_length same

theorem Markup.relates_of_passesXPath {x : Markup} {name actual value : String} {r : Relation}
    (hname : x.attribute? name = some actual)
    (h : x.passesXPath (.attr name) (.relation r) value = true) :
    r.relates actual.toList value.toList = true := by
  cases r <;> simp_all [passesXPath, Relation.relates]

/-- CSS asks of an attribute what XPath asks, but never finds the empty text in a value. -/
theorem Markup.passesCss_iff (x : Markup) {name value : String} {r : Relation} :
    x.passesCss name r value = true ↔
      (r = .equals ∨ value ≠ "") ∧ x.passesXPath (.attr name) (.relation r) value = true := by
  unfold passesCss
  cases hname : x.attribute? name with
  | some actual =>
      cases r <;> simp [passesXPath, Relation.relates, hname]
      exact String.toList_inj
  | none =>
      -- A missing attribute has nothing but the empty text in it.
      cases r <;> simp [passesXPath, Relation.relates, hname]

/-! ### A whole selector -/

namespace Css

/-- A selector that is sent in CSS selects where XPath selects with the same tests, if no string in
it is broken and nothing is asked that CSS never finds. -/
theorem Compound.selects_inCss_iff (x : Markup) (c : Compound) :
    c.selects x.inCss = true ↔
      (∀ a ∈ c.attributes, a.relation = .equals ∨ a.value ≠ "") ∧ c.selects x.inXPath = true := by
  have test (a : Attribute) : a.holds x.inCss = true ↔
      (a.relation = .equals ∨ a.value ≠ "") ∧ a.holds x.inXPath = true := x.passesCss_iff
  have tag (t : Name) : x.inCss.hasTag t = x.inXPath.hasTag t := rfl
  simp only [Compound.selects, Bool.and_eq_true, List.all_eq_true, test, forall_and, funext tag]
  exact and_left_comm

/-- When a CSS selector that is sent matches an element. -/
theorem matches_render_iff {cs : List Compound} (hne : cs ≠ []) (h : ∀ c ∈ cs, c.Asks) (x : Node) :
    Matches x (render cs) ↔ (∀ c ∈ cs, c.IsUnbroken) ∧ ∃ c ∈ cs, c.seen.selects x = true := by
  constructor
  · rintro ⟨ds, reads, d, hd, selects⟩
    obtain ⟨unbroken, rfl⟩ := (reads_preprocess_render_iff hne h ds).1 reads
    obtain ⟨c, hc, rfl⟩ := List.mem_map.1 hd
    exact ⟨unbroken, c, hc, by rwa [← selects_read]⟩
  · rintro ⟨unbroken, c, hc, selects⟩
    exact ⟨_, (reads_preprocess_render_iff hne h _).2 ⟨unbroken, rfl⟩, _,
      List.mem_map_of_mem hc, by rwa [selects_read]⟩

end Css

namespace Formula

/-- The XPath form of a formula, whether or not it has a CSS form. -/
def xpathForm (f : Formula Name) : Except Failure Selector := do
  return .xpathOf (← conjunctions f.clauses)

/-- The CSS form matches the elements that the XPath form selects. -/
def FormsAgree (selectors : List Css.Compound) (xpath : Selector) : Prop :=
  ∀ x : Markup, Css.Matches x.inCss (Css.render selectors) ↔ xpath.toQuery.Selects x.inXPath

theorem IsFlat.madeOf {f : Formula Name} (h : f.IsFlat) : f.MadeOf fun _ => True := by
  have ne_nil {fs : List (Formula Name)} (two : 2 ≤ fs.length) : fs ≠ [] :=
    List.ne_nil_of_length_pos (Nat.lt_of_lt_of_le Nat.two_pos two)
  induction h with
  | tag t => exact .tag t
  | test t => exact .test trivial
  | not _ ih => exact .not ih
  | all two _ _ ih => exact .all (ne_nil two) ih
  | any two _ _ ih => exact .any (ne_nil two) ih

section

variable {f : Formula Name} {selectors : List Css.Compound} {xpath : Selector}

/-- What the two forms of a formula have to do with each other. -/
theorem IsDistributed.selects_forms (hf : f.IsDistributed)
    (css : f.selector = .ok (.css selectors)) (hx : f.xpathForm = .ok xpath) :
    (selectors ≠ [] ∧ ∀ c ∈ selectors, c.Asks) ∧
      ∀ x : Node, xpath.toQuery.Selects x ↔ ∃ c ∈ selectors, c.selects x = true := by
  obtain ⟨ds, hds, hx⟩ := Except.bind_eq_ok_iff.1 hx
  obtain ⟨ds', hds', css⟩ := Except.bind_eq_ok_iff.1 css
  cases hx
  obtain rfl : ds = ds' := Except.ok.inj (hds.symm.trans hds')
  have css : Selector.ofConjunctions ds = .css selectors := Except.ok.inj css
  obtain ⟨hne, made⟩ := madeOf_clauses hf.isFlat.madeOf
  obtain ⟨length, made⟩ := madeOf_of_conjunctions hds made
  have hne : ds ≠ [] := fun none => hne (List.length_eq_zero_iff.1 (by rw [← length, none]; rfl))
  have written := Selector.madeOf_ofConjunctions hne made
  rw [css] at written
  refine ⟨written, fun x => ?_⟩
  -- Both forms hold of an element exactly if one of the clauses does.
  have clauses := Selector.selects_ofConjunctions (any_holds_of_conjunctions (x := x) hds).2
  rw [Selector.selects_toQuery (Selector.madeOf_xpathOf hne made), Selector.selects_xpathOf,
    ← clauses, css, Selector.selects, List.any_eq_true]

/-- What the CSS form matches, in terms of what XPath selects. -/
theorem IsDistributed.matches_css_iff (hf : f.IsDistributed)
    (css : f.selector = .ok (.css selectors)) (hx : f.xpathForm = .ok xpath) (x : Markup) :
    Css.Matches x.inCss (Css.render selectors) ↔ (∀ c ∈ selectors, c.IsUnbroken) ∧
      ∃ c ∈ selectors, (∀ a ∈ c.seen.attributes, a.relation = .equals ∨ a.value ≠ "") ∧
        c.seen.selects x.inXPath = true := by
  obtain ⟨⟨hne, asks⟩, -⟩ := hf.selects_forms css hx
  simp only [Css.matches_render_iff hne asks, Css.Compound.selects_inCss_iff]

/-- If all tests are common, the forms agree. -/
theorem IsDistributed.formsAgree (hf : f.IsDistributed)
    (css : f.selector = .ok (.css selectors)) (hx : f.xpathForm = .ok xpath)
    (common : ∀ c ∈ selectors, ∀ a ∈ c.attributes, a.IsCommon) : FormsAgree selectors xpath := by
  intro x
  have seen : ∀ c ∈ selectors, c.seen = c := by
    intro c hc
    have same : c.attributes.map Css.Attribute.seen = c.attributes.map id :=
      List.map_congr_left fun a ha => (common c hc a ha).seen_eq
    rw [Css.Compound.seen, same, List.map_id]
  rw [hf.matches_css_iff css hx, (hf.selects_forms css hx).2]
  constructor
  · rintro ⟨-, c, hc, -, selects⟩
    exact ⟨c, hc, by rwa [seen c hc] at selects⟩
  · rintro ⟨c, hc, selects⟩
    refine ⟨fun d hd a ha => (common d hd a ha).isUnbroken, c, hc, ?_, by rwa [seen c hc]⟩
    rw [seen c hc]
    exact fun a ha => (common c hc a ha).asks

/-- The forms of a single test agree only if it is common. -/
theorem isCommon_of_formsAgree {name : Name} {r : Relation} {value : String}
    (hx : (Formula.test (.attr name r value)).xpathForm = .ok xpath)
    (agree : FormsAgree [⟨none, [⟨name, r, value⟩]⟩] xpath) :
    Css.Attribute.IsCommon ⟨name, r, value⟩ := by
  let a : Css.Attribute := ⟨name, r, value⟩
  have distributed : (Formula.test (.attr name r value)).IsDistributed := .test _
  -- XPath selects the element that has the attribute with this very value.
  let x : Markup := ⟨"", fun _ => some value, fun _ _ _ => false⟩
  have own : a.holds x.inXPath = true := by
    change x.passesXPath (.attr name.text) (.relation r) value = true
    cases r <;> simp [x, Markup.passesXPath, Relation.relates]
  have selected := ((distributed.selects_forms rfl hx).2 x.inXPath).2
    ⟨⟨none, [a]⟩, List.mem_cons_self, by simp [Css.Compound.selects, own]⟩
  obtain ⟨-, c, hc, asks, selects⟩ :=
    (distributed.matches_css_iff rfl hx x).1 ((agree x).2 selected)
  obtain rfl := List.mem_singleton.1 hc
  -- CSS only matches it too if the value that it reads is that one.
  have held : a.seen.holds x.inXPath = true :=
    List.all_eq_true.1 (Bool.and_eq_true_iff.1 selects).2 _ List.mem_cons_self
  have related : r.relates value.toList (value.toList.map Css.replaced) = true := by
    rw [← String.toList_ofList (l := value.toList.map Css.replaced)]
    exact Markup.relates_of_passesXPath rfl held
  have same : a.seen = a := by
    have := Relation.eq_of_relates related (List.length_map _)
    simp [a, Css.Attribute.seen, this]
  refine ⟨?_, fun c hc => ?_⟩
  · simpa [same] using asks a.seen List.mem_cons_self
  · exact Css.replaced_eq_self_iff.1 (Css.Attribute.seen_eq_self_iff.1 same c hc)

/-- **The two forms agree where all tests are common, and those of a single test only there.**  What
the CSS form matches is what XPath selects with the values that CSS reads, if it reads them at all,
less what is found by looking for the empty text. -/
theorem forms_agree_where_common (hf : f.IsDistributed)
    (css : f.selector = .ok (.css selectors)) (hx : f.xpathForm = .ok xpath) :
    (∀ x : Markup,
      (Css.Matches x.inCss (Css.render selectors) ↔ (∀ c ∈ selectors, c.IsUnbroken) ∧
        ∃ c ∈ selectors, (∀ a ∈ c.seen.attributes, a.relation = .equals ∨ a.value ≠ "") ∧
          c.seen.selects x.inXPath = true) ∧
      (xpath.toQuery.Selects x.inXPath ↔ ∃ c ∈ selectors, c.selects x.inXPath = true)) ∧
    ((∀ c ∈ selectors, ∀ a ∈ c.attributes, a.IsCommon) → FormsAgree selectors xpath) ∧
    ∀ t, f = .test t → FormsAgree selectors xpath →
      ∀ c ∈ selectors, ∀ a ∈ c.attributes, a.IsCommon := by
  refine ⟨fun x => ?_, hf.formsAgree css hx, ?_⟩
  · exact ⟨hf.matches_css_iff css hx x, (hf.selects_forms css hx).2 x.inXPath⟩
  · rintro t rfl agree
    cases t with
    | attr name r value =>
        cases css
        simpa using isCommon_of_formsAgree hx agree
    | comparison s c value => cases css

end

/-- Two branches with one tag, and an element that one of them matches. -/
theorem forms_agree_two_branches :
    ∃ (f : Formula Name) (selectors : List Css.Compound) (paths : List XPath.Path),
      f.selector = .ok (.css selectors) ∧ f.xpathForm = .ok (.xpath paths) ∧
      Css.render selectors = "p[title=\"x\"], p[class^=\"a\"]".toList ∧
      XPath.render paths = "//p[@title=\"x\"] | //p[starts-with(@class,\"a\")]".toList ∧
      FormsAgree selectors (.xpath paths) ∧
      Css.Matches (Markup.inCss ⟨"p", fun _ => some "ab", fun _ _ _ => false⟩)
        (Css.render selectors) := by
  let p : Name := ⟨"p".toList, by decide⟩
  let title : Css.Attribute := ⟨⟨"title".toList, by decide⟩, .equals, "x"⟩
  let styled : Css.Attribute := ⟨⟨"class".toList, by decide⟩, .startsWith, "a"⟩
  let branch (a : Css.Attribute) : Formula Name :=
    .all [.tag p, .test (.attr a.name a.relation a.value)]
  have branches (a : Css.Attribute) : (branch a).IsDistributed :=
    .all (Nat.le_refl 2) (by simp [IsDistributed.tag, IsDistributed.test]) (by simp) (by simp)
  have distributed : (Formula.any [branch title, branch styled]).IsDistributed :=
    .any (Nat.le_refl 2) (by simp [branches]) (by simp [branch])
  have common : title.IsCommon ∧ styled.IsCommon :=
    ⟨⟨.inl rfl, by simp [title]⟩, ⟨.inr (by decide), by simp [styled]⟩⟩
  have css : (Formula.any [branch title, branch styled]).selector =
      .ok (.css [⟨some p, [title]⟩, ⟨some p, [styled]⟩]) := rfl
  obtain ⟨exactly, agree, -⟩ := forms_agree_where_common distributed css rfl
  refine ⟨_, _, _, css, rfl, by decide +kernel, by decide +kernel, agree ?_, (exactly _).1.2 ?_⟩
  · simpa using common
  · refine ⟨?_, ⟨some p, [styled]⟩, by simp, ?_, by decide⟩
    · simpa [Css.Compound.IsUnbroken] using ⟨common.1.isUnbroken, common.2.isUnbroken⟩
    · simpa [Css.Compound.seen, common.2.seen_eq] using common.2.asks

/-- Looking for the empty text: alone in CSS no element has it, and together with a test of the text
in XPath every element has. -/
theorem not_forms_agree_empty :
    (Expression.attr "class" (.relation .contains) "").compile = .ok ⟨.css, "[class*=\"\"]"⟩ ∧
      ((Expression.attr "class" (.relation .contains) "").and
        (.text (.relation .equals) "y")).compile =
          .ok ⟨.xpath, "//*[(contains(@class,\"\") and text()=\"y\")]"⟩ ∧
      ∃ x : Markup, ¬Css.Matches x.inCss "[class*=\"\"]".toList ∧
        Query.Selects x.inXPath ⟨.xpath, "//*[contains(@class,\"\")]"⟩ := by
  let a : Css.Attribute := ⟨⟨"class".toList, by decide⟩, .contains, ""⟩
  have distributed : (Formula.test (.attr a.name a.relation a.value)).IsDistributed := .test _
  refine ⟨rfl, rfl, ⟨"p", fun _ => none, fun _ _ _ => false⟩, ?_, ?_⟩
  · intro matched
    have text : Css.render [⟨none, [a]⟩] = "[class*=\"\"]".toList := by decide +kernel
    rw [← text] at matched
    obtain ⟨-, c, hc, asks, -⟩ := (distributed.matches_css_iff rfl rfl _).1 matched
    obtain rfl := List.mem_singleton.1 hc
    exact absurd (asks a.seen List.mem_cons_self) (by decide)
  · exact ((distributed.selects_forms rfl rfl).2 _).2 ⟨⟨none, [a]⟩, List.mem_cons_self, by decide⟩

end Formula

end WebDriverClient.Locator
