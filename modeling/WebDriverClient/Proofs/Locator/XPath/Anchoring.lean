/-
**Anchoring a written selector.**

The scan that anchors an XPath expression keeps track of quotes and brackets, and it must come to
the same strings and predicates as the text was written with.  A text is passed over if the scan,
wherever it stands in a branch, keeps every character of it and stands as before behind it.  Names,
strings and everything in matching brackets are passed over, and so is every written filter; of a
written path the scan changes the beginning only.

Main definitions:

* `XPath.PassedOver` — the scan keeps a text and stands as before behind it.

Main results:

* `XPath.passedOver_filter` — every written filter is passed over;
* `XPath.anchor_render` — **a period is put before each path of a union and nowhere else**.
-/

import WebDriverClient.Locator.Query
import WebDriverClient.Proofs.Locator.XPath.ReadBack

set_option autoImplicit false

namespace WebDriverClient.Locator.XPath

/-! ### Texts that are passed over -/

/-- The scan in the middle of a branch, outside of strings. -/
def inBranch (depth : Nat) : Scan := ⟨none, depth, false⟩

/-- The scan keeps a text that stands in a branch, and stands as before behind it. -/
def PassedOver (text : List Char) : Prop :=
  ∀ depth rest,
    anchorFrom (inBranch depth) (text ++ rest) = text ++ anchorFrom (inBranch depth) rest

/-- In the middle of a branch no period is put anywhere. -/
theorem anchorFrom_cons {s : Scan} (h : s.atStart = false) (c : Char) (rest : List Char) :
    anchorFrom s (c :: rest) = c :: anchorFrom (s.next c) rest := by
  simp [anchorFrom, h]

/-- The character has no meaning for the scan in the middle of a branch. -/
def isPlain (c : Char) : Bool :=
  c ≠ '"' && c ≠ '\'' && c ≠ '[' && c ≠ '(' && c ≠ ']' && c ≠ ')' && c ≠ '|'

theorem next_of_isPlain {c : Char} (h : isPlain c = true) (depth : Nat) :
    (inBranch depth).next c = inBranch depth := by
  simp only [isPlain, Bool.and_eq_true, decide_eq_true_eq, ne_eq] at h
  obtain ⟨⟨⟨⟨⟨⟨double, single⟩, bracket⟩, paren⟩, bracket'⟩, paren'⟩, bar⟩ := h
  simp [Scan.next, inBranch, double, single, bracket, paren, bracket', paren', bar]

namespace PassedOver

theorem nil : PassedOver [] := fun _ _ => rfl

theorem append {a b : List Char} (ha : PassedOver a) (hb : PassedOver b) : PassedOver (a ++ b) := by
  intro depth rest
  rw [List.append_assoc, ha, hb, List.append_assoc]

theorem of_isPlain {text : List Char} (h : text.all isPlain = true) : PassedOver text := by
  induction text with
  | nil => exact nil
  | cons c text ih =>
      rw [List.all_cons, Bool.and_eq_true] at h
      obtain ⟨hc, htext⟩ := h
      intro depth rest
      rw [List.cons_append, anchorFrom_cons rfl, next_of_isPlain hc, ih htext, List.cons_append]

/-- A text between two brackets of a kind; behind them the depth is the one before them. -/
theorem enclosed {opening closing : Char} {text : List Char}
    (opens : ∀ depth, (inBranch depth).next opening = inBranch (depth + 1))
    (closes : ∀ depth, (inBranch (depth + 1)).next closing = inBranch depth)
    (h : PassedOver text) : PassedOver (opening :: text ++ [closing]) := by
  intro depth rest
  have split (tail : List Char) :
      opening :: text ++ [closing] ++ tail = opening :: (text ++ closing :: tail) := by simp
  rw [split, split, anchorFrom_cons rfl, opens, h, anchorFrom_cons rfl, closes]

theorem parens {text : List Char} (h : PassedOver text) : PassedOver ('(' :: text ++ [')']) :=
  h.enclosed (fun _ => rfl) fun _ => rfl

theorem brackets {text : List Char} (h : PassedOver text) : PassedOver ('[' :: text ++ [']']) :=
  h.enclosed (fun _ => rfl) fun _ => rfl

/-- Texts with one between them. -/
theorem intercalate {separator : List Char} {texts : List (List Char)} (hs : PassedOver separator)
    (h : ∀ t ∈ texts, PassedOver t) : PassedOver (separator.intercalate texts) := by
  induction texts with
  | nil => exact nil
  | cons t texts ih =>
      obtain ⟨ht, hts⟩ := List.forall_mem_cons.1 h
      cases texts with
      | nil => simpa [List.intercalate] using ht
      | cons u us =>
          have more := (ht.append hs).append (ih hts)
          simpa [List.intercalate] using more

end PassedOver

/-! ### Strings and names -/

/-- The scan in a string. -/
def inString (quote : Char) (depth : Nat) : Scan := ⟨some quote, depth, false⟩

/-- In a string nothing but its quote has a meaning. -/
theorem anchorFrom_inString {quote : Char} {inner : List Char} (h : quote ∉ inner) (depth : Nat)
    (rest : List Char) :
    anchorFrom (inString quote depth) (inner ++ rest) =
      inner ++ anchorFrom (inString quote depth) rest := by
  induction inner with
  | nil => rfl
  | cons c inner ih =>
      have other : quote ≠ c := List.ne_of_not_mem_cons h
      have stays : (inString quote depth).next c = inString quote depth := by
        simp [Scan.next, inString, other]
      rw [List.cons_append, anchorFrom_cons rfl, stays, ih (List.not_mem_of_not_mem_cons h),
        List.cons_append]

theorem Literal.Closed.passedOver {l : Literal} (h : l.Closed) : PassedOver l.render := by
  obtain ⟨quote, inner⟩ := l
  obtain ⟨kind, inside⟩ := h
  intro depth rest
  have opens : (inBranch depth).next quote = inString quote depth := by
    simp [Scan.next, inBranch, inString, kind]
  have closes : (inString quote depth).next quote = inBranch depth := by
    simp [Scan.next, inBranch, inString]
  have split (tail : List Char) :
      Literal.render ⟨quote, inner⟩ ++ tail = quote :: (inner ++ quote :: tail) := by
    simp [Literal.render]
  rw [split, split, anchorFrom_cons rfl, opens, anchorFrom_inString inside, anchorFrom_cons rfl,
    closes]

theorem isPlain_of_isNameChar {c : Char} (h : isNameChar c = true) : isPlain c = true := by
  have other : ∀ d : Char, isNameChar d = false → c ≠ d := by
    rintro d hd rfl
    rw [h] at hd
    cases hd
  simp [isPlain, other '"' (by decide), other '\'' (by decide), other '[' (by decide),
    other '(' (by decide), other ']' (by decide), other ')' (by decide), other '|' (by decide)]

theorem passedOver_name (name : Name) : PassedOver name.chars := by
  obtain ⟨chars, valid⟩ := name
  refine PassedOver.of_isPlain ?_
  cases chars with
  | nil => cases valid
  | cons c chars =>
      rw [isName, Bool.and_eq_true, List.all_eq_true] at valid
      have first : isNameChar c = true := by rw [isNameChar, valid.1]; rfl
      exact List.all_eq_true.2 (List.forall_mem_cons.2 ⟨isPlain_of_isNameChar first,
        fun d hd => isPlain_of_isNameChar (valid.2 d hd)⟩)

/-! ### Filters -/

theorem passedOver_operand {o : Operand} (h : ∀ l ∈ o.literals, l.Closed) :
    PassedOver o.render := by
  cases o with
  | literal l => exact (h l (List.mem_singleton_self l)).passedOver
  | concat ls =>
      have comma : PassedOver [',', ' '] := .of_isPlain (by decide)
      have name : PassedOver "concat".toList := .of_isPlain (by decide)
      have strings := comma.intercalate (List.forall_mem_map.2 fun l hl => (h l hl).passedOver)
      exact name.append strings.parens

theorem passedOver_subject (s : Subject Name) : PassedOver (renderSubject s) := by
  cases s with
  | attr name =>
      have sign : PassedOver ['@'] := .of_isPlain (by decide)
      exact sign.append (passedOver_name name)
  | function name => exact (passedOver_name name).append PassedOver.nil.parens

theorem passedOver_call {function : String} (hf : function.toList.all isPlain = true)
    {subject operand : List Char} (hs : PassedOver subject) (ho : PassedOver operand) :
    PassedOver (call function subject operand) := by
  have comma : PassedOver [','] := .of_isPlain (by decide)
  have arguments := (hs.append (comma.append ho)).parens
  simpa [call] using (PassedOver.of_isPlain hf).append arguments

theorem passedOver_test {subject operand : List Char} (hs : PassedOver subject)
    (ho : PassedOver operand) (c : Comparison) : PassedOver (renderTest subject c operand) := by
  have equal : PassedOver ['='] := .of_isPlain (by decide)
  have unequal : PassedOver ['!', '='] := .of_isPlain (by decide)
  match c with
  | .relation .equals => exact hs.append (equal.append ho)
  | .differs => exact hs.append (unequal.append ho)
  | .relation .contains => exact passedOver_call (by decide) hs ho
  | .relation .startsWith => exact passedOver_call (by decide) hs ho
  | .relation .endsWith => exact passedOver_call (by decide) hs ho

/-- Filters with a connective between them. -/
theorem passedOver_join {connective : String} (hc : connective.toList.all isPlain = true)
    {fs : List Filter} (h : ∀ f ∈ fs, PassedOver f.render) :
    PassedOver (connective.toList.intercalate (Filter.renderAll fs)) := by
  rw [renderAll_eq]
  exact (PassedOver.of_isPlain hc).intercalate (List.forall_mem_map.2 h)

/-- **Every written filter is passed over**, whatever the values in it are. -/
theorem passedOver_filter {f : Filter} (h : f.MadeOf Quotes) : PassedOver f.render := by
  induction h with
  | @test s c o h =>
      obtain ⟨value, rfl⟩ := h
      exact passedOver_test (passedOver_subject s)
        (passedOver_operand (Operand.closed_ofValue value)) c
  | all _ _ ih => exact (passedOver_join (by decide) ih).parens
  | any _ _ ih => exact (passedOver_join (by decide) ih).parens
  | not _ ih =>
      have name : PassedOver "not".toList := .of_isPlain (by decide)
      exact name.append ih.parens

/-! ### Unions of paths -/

theorem passedOver_step {p : Path} (h : ∀ f ∈ p.filters, f.MadeOf Quotes) :
    PassedOver p.renderStep := by
  have tag : PassedOver (p.tag.elim ['*'] (·.chars)) := by
    cases p.tag with
    | none => exact .of_isPlain (by decide)
    | some t => exact passedOver_name t
  refine tag.append ?_
  split
  next => exact .nil
  next => exact (passedOver_join (by decide) fun f hf => passedOver_filter (h f hf)).brackets

/-- At the start of a branch a period is put before a path, and the path is kept. -/
theorem anchorFrom_path {p : Path} (h : ∀ f ∈ p.filters, f.MadeOf Quotes) (rest : List Char) :
    anchorFrom .initial (p.render ++ rest) = '.' :: p.render ++ anchorFrom (inBranch 0) rest := by
  have slashes : anchorFrom .initial ('/' :: '/' :: (p.renderStep ++ rest)) =
      '.' :: '/' :: '/' :: anchorFrom (inBranch 0) (p.renderStep ++ rest) := rfl
  rw [p.render_eq, List.cons_append, List.cons_append, slashes, passedOver_step h]
  rfl

/-- The sign between two paths starts a branch. -/
theorem anchorFrom_union (rest : List Char) :
    anchorFrom (inBranch 0) (" | ".toList ++ rest) = " | ".toList ++ anchorFrom .initial rest :=
  rfl

/-- **A period is put before each path of a union, and nothing else is changed.** -/
theorem anchor_render {paths : List Path} (h : ∀ p ∈ paths, ∀ f ∈ p.filters, f.MadeOf Quotes) :
    anchor (render paths) = " | ".toList.intercalate (paths.map fun p => '.' :: p.render) := by
  rw [anchor, render]
  induction paths with
  | nil => rfl
  | cons p paths ih =>
      obtain ⟨hp, hps⟩ := List.forall_mem_cons.1 h
      cases paths with
      | nil =>
          have last := anchorFrom_path hp []
          simpa [List.intercalate, anchorFrom] using last
      | cons q qs =>
          have first := anchorFrom_path hp (" | ".toList ++
            " | ".toList.intercalate ((q :: qs).map Path.render))
          rw [anchorFrom_union, ih hps] at first
          simpa [List.intercalate] using first

end WebDriverClient.Locator.XPath
