/-
**Selectors as they are sent.**

CSS replaces some characters of a text before it reads any token: line breaks of every kind become
line feeds, and the null character becomes the replacement character.  A string is quoted before
that.  So a line feed in a value is escaped, but a carriage return or a form feed turns into a line
feed inside the string, which breaks it, and a null character comes out as another.

Main definitions:

* `Css.preprocess` — the replacement;
* `Css.Compound.IsUnbroken` — no value has a carriage return or form feed;
* `Css.Compound.seen` — the selector with the values that come out.

Main results:

* `Css.reads_preprocess_render_iff` — a list of compound selectors is read exactly if none is
  broken, and then with the values that come out;
* `Css.reads_back_iff` — **a compound selector is read as it was exactly if its values have none of
  the three characters**.
-/

import Mathlib.Data.List.Basic
import WebDriverClient.Locator.Compile
import WebDriverClient.Proofs.Locator.Css.Reading

set_option autoImplicit false

namespace WebDriverClient.Locator.Css

/-! ### Replaced characters -/

/-- A line break that is not a line feed. -/
def isBreak (c : Char) : Bool := c = '\r' || c = '\x0c'

theorem isBreak_iff {c : Char} : isBreak c = true ↔ c = '\r' ∨ c = '\x0c' := by simp [isBreak]

/-- What a character is read as. -/
def replaced (c : Char) : Char :=
  if isBreak c = true then '\n' else if c = '\x00' then '\uFFFD' else c

/-- A text as it is read.  A carriage return and the line feed after it are one line break. -/
def preprocess : List Char → List Char
  | '\r' :: '\n' :: rest => '\n' :: preprocess rest
  | c :: rest => replaced c :: preprocess rest
  | [] => []

theorem preprocess_eq_map {text : List Char} (h : '\n' ∉ text) :
    preprocess text = text.map replaced := by
  fun_induction preprocess text with
  | case1 rest _ => simp at h
  | case2 c rest _ ih => rw [ih (List.not_mem_of_not_mem_cons h), List.map_cons]
  | case3 => rfl

theorem replaced_of_isNameChar {c : Char} (h : isNameChar c = true) : replaced c = c := by
  have no_break : ¬isBreak c = true := by
    intro hc
    rcases isBreak_iff.1 hc with rfl | rfl <;> exact absurd h (by decide)
  have no_null : c ≠ '\x00' := by
    rintro rfl
    exact absurd h (by decide)
  simp [replaced, no_break, no_null]

theorem all_isNameChar (n : Name) : ∀ c ∈ n.chars, isNameChar c = true := by
  obtain ⟨chars, valid⟩ := n
  cases chars with
  | nil => cases valid
  | cons c chars =>
      rw [isName, Bool.and_eq_true, List.all_eq_true] at valid
      exact List.forall_mem_cons.2 ⟨by simp [isNameChar, valid.1], valid.2⟩

theorem map_replaced_name (n : Name) : n.chars.map replaced = n.chars :=
  (List.map_congr_left fun c hc => replaced_of_isNameChar (all_isNameChar n c hc)).trans
    (List.map_id _)

theorem map_replaced_escapeChar {c : Char} (h : isBreak c = false) :
    (escapeChar c).map replaced = escapeChar (replaced c) := by
  by_cases null : c = '\x00'
  · subst null
    decide
  · have same : replaced c = c := by simp [replaced, h, null]
    rw [same]
    unfold escapeChar
    split
    · simp only [List.map, same]
      rfl
    · split
      · decide
      · rw [List.map_singleton, same]

/-! ### What comes out -/

/-- No value has a line break that is not a line feed. -/
def Attribute.IsUnbroken (a : Attribute) : Prop := ∀ c ∈ a.value.toList, isBreak c = false

/-- The test with the value that comes out. -/
def Attribute.seen (a : Attribute) : Attribute :=
  { a with value := String.ofList (a.value.toList.map replaced) }

/-- No value of the selector has a line break that is not a line feed. -/
def Compound.IsUnbroken (c : Compound) : Prop := ∀ a ∈ c.attributes, a.IsUnbroken

/-- The selector with the values that come out. -/
def Compound.seen (c : Compound) : Compound :=
  { c with attributes := c.attributes.map Attribute.seen }

theorem map_replaced_escaped {value : List Char} (h : ∀ c ∈ value, isBreak c = false) :
    (value.flatMap escapeChar).map replaced = (value.map replaced).flatMap escapeChar := by
  rw [List.map_flatMap, List.flatMap_map]
  exact List.flatMap_congr fun c hc => map_replaced_escapeChar (h c hc)

theorem map_replaced_operator (r : Relation) : (operator r).map replaced = operator r := by
  cases r <;> decide

theorem map_replaced_attribute {a : Attribute} (h : a.IsUnbroken) :
    a.render.map replaced = a.seen.render := by
  simp only [Attribute.render, quote, List.map_append, List.map_cons, map_replaced_name,
    map_replaced_operator, map_replaced_escaped h, Attribute.seen, String.toList_ofList]
  rfl

theorem map_replaced_compound {c : Compound} (h : c.IsUnbroken) :
    c.render.map replaced = c.seen.render := by
  have attributes : (c.attributes.flatMap Attribute.render).map replaced =
      (c.attributes.map Attribute.seen).flatMap Attribute.render := by
    rw [List.map_flatMap, List.flatMap_map]
    exact List.flatMap_congr fun a ha => map_replaced_attribute (h a ha)
  rw [Compound.render, List.map_append, attributes, Compound.render, Compound.seen]
  cases c.tag with
  | none => rfl
  | some t => rw [Option.elim_some, map_replaced_name]

theorem map_replaced_render (cs : List Compound) :
    (render cs).map replaced = [',', ' '].intercalate (cs.map fun c => c.render.map replaced) := by
  cases cs with
  | nil => rfl
  | cons c cs =>
      rw [render, List.map_cons, intercalate_cons, List.map_cons, intercalate_cons, List.map_append,
        List.flatMap_map, List.map_flatMap, List.flatMap_map]
      rfl

theorem newline_not_mem_compound (c : Compound) : '\n' ∉ c.render := by
  have name (n : Name) : '\n' ∉ n.chars := fun h => absurd (all_isNameChar n _ h) (by decide)
  have escape (d : Char) : '\n' ∉ escapeChar d := by
    unfold escapeChar
    split
    next quoted => rcases quoted with rfl | rfl <;> decide
    next => split <;> simp_all [eq_comm]
  have test (a : Attribute) : '\n' ∉ a.render := by
    have operator : '\n' ∉ operator a.relation := by cases a.relation <;> decide
    simp [Attribute.render, quote, name, operator, escape]
  rw [Compound.render]
  cases c.tag <;> simp [name, test]

theorem newline_not_mem_render (cs : List Compound) : '\n' ∉ render cs := by
  cases cs with
  | nil => simp [render]
  | cons c cs => simp [render, intercalate_cons, newline_not_mem_compound]

/-! ### Broken strings -/

/-- A line break inside a string is no longer escaped, and breaks it. -/
theorem readString_broken {value : List Char} (h : ¬∀ c ∈ value, isBreak c = false)
    (rest : List Char) :
    readString '"' ((value.flatMap escapeChar).map replaced ++ rest) = none := by
  induction value with
  | nil => simp at h
  | cons c value ih =>
      rw [List.flatMap_cons, List.map_append, List.append_assoc]
      cases hc : isBreak c with
      | true =>
          have form : (escapeChar c).map replaced = ['\n'] := by
            rcases isBreak_iff.1 hc with rfl | rfl <;> decide
          rw [form, List.singleton_append, readString.eq_def]
          simp
      | false =>
          have broken : ¬∀ d ∈ value, isBreak d = false :=
            fun all => h (List.forall_mem_cons.2 ⟨hc, all⟩)
          have first := readString_escaped [replaced c]
            ((value.flatMap escapeChar).map replaced ++ rest)
          rw [ih broken, Option.map_none, List.flatMap_singleton] at first
          rw [map_replaced_escapeChar hc, first]

theorem Lexes.tail {text rest : List Char} {t : Token} {ts : List Token} (h : Lexes text ts)
    (hr : readToken text = some (t, rest)) : ∃ us, Lexes rest us := by
  cases h with
  | nil => cases hr
  | cons h' hs =>
      rw [hr] at h'
      cases h'
      exact ⟨_, hs⟩

theorem not_lexes_of_readToken {c : Char} {rest : List Char} {ts : List Token}
    (h : readToken (c :: rest) = none) : ¬Lexes (c :: rest) ts := by
  intro lexes
  cases lexes with
  | cons h' _ => cases h.symm.trans h'

/-- A test with a broken string has no tokens, and neither has a text that starts with one. -/
theorem Lexes.attribute {a : Attribute} {rest : List Char} {ts : List Token}
    (h : Lexes (a.render.map replaced ++ rest) ts) : a.IsUnbroken ∧ ∃ us, Lexes rest us := by
  obtain ⟨name, relation, value⟩ := a
  let string := '"' :: ((value.toList.flatMap escapeChar).map replaced ++ '"' :: ']' :: rest)
  have text : (Attribute.mk name relation value).render.map replaced ++ rest =
      '[' :: (name.chars ++ (operator relation ++ string)) := by
    simp only [Attribute.render, quote, List.map_append, List.map_cons, map_replaced_name,
      map_replaced_operator]
    simp [string, replaced, isBreak]
  rw [text] at h
  obtain ⟨_, h⟩ := h.tail rfl
  have stops : stopsIdent (operator relation ++ string) = true := by cases relation <;> rfl
  obtain ⟨_, h⟩ := h.tail (readToken_name name stops)
  have opened : ∃ us, Lexes string us := by
    cases relation with
    | equals => exact h.tail rfl
    | contains =>
        obtain ⟨_, h⟩ := h.tail rfl
        exact h.tail rfl
    | startsWith =>
        obtain ⟨_, h⟩ := h.tail rfl
        exact h.tail rfl
    | endsWith =>
        obtain ⟨_, h⟩ := h.tail rfl
        exact h.tail rfl
  obtain ⟨_, opened⟩ := opened
  by_cases unbroken : ∀ c ∈ value.toList, isBreak c = false
  · refine ⟨unbroken, ?_⟩
    have read : readToken string =
        some (.string (value.toList.map replaced), ']' :: rest) := by
      simp [string, readToken, map_replaced_escaped unbroken, readString_quote]
    obtain ⟨_, h⟩ := opened.tail read
    exact h.tail rfl
  · have read : readToken string = none := by
      simp [string, readToken, readString_broken unbroken]
    exact absurd opened (not_lexes_of_readToken read)

theorem Lexes.attributes {as : List Attribute} {rest : List Char} {ts : List Token}
    (h : Lexes (as.flatMap (fun a => a.render.map replaced) ++ rest) ts) :
    (∀ a ∈ as, a.IsUnbroken) ∧ ∃ us, Lexes rest us := by
  induction as generalizing ts with
  | nil => exact ⟨List.forall_mem_nil _, ts, h⟩
  | cons a as ih =>
      rw [List.flatMap_cons, List.append_assoc] at h
      obtain ⟨unbroken, us, h⟩ := h.attribute
      obtain ⟨rest, h⟩ := ih h
      exact ⟨List.forall_mem_cons.2 ⟨unbroken, rest⟩, h⟩

theorem Lexes.compound {c : Compound} {rest : List Char} {ts : List Token}
    (hr : stopsIdent rest = true) (h : Lexes (c.render.map replaced ++ rest) ts) :
    c.IsUnbroken ∧ ∃ us, Lexes rest us := by
  obtain ⟨tag, as⟩ := c
  rw [Compound.render, List.map_append, List.map_flatMap, List.append_assoc] at h
  cases tag with
  | none => exact h.attributes
  | some t =>
      rw [Option.elim_some, map_replaced_name] at h
      have stops : stopsIdent (as.flatMap (fun a => a.render.map replaced) ++ rest) = true := by
        cases as with
        | nil => exact hr
        | cons a as => rfl
      obtain ⟨us, h⟩ := h.tail (readToken_name t stops)
      exact h.attributes

theorem dropWhile_seen (c : Compound) {rest : List Char} (hr : rest.dropWhile isSpace = rest) :
    (c.render.map replaced ++ rest).dropWhile isSpace = c.render.map replaced ++ rest := by
  refine dropWhile_append (fun d hd => ?_) hr
  rw [List.head?_map] at hd
  obtain ⟨e, he, rfl⟩ := Option.map_eq_some_iff.1 hd
  have head := head_render c e he
  have same : replaced e = e := by
    rcases head with rfl | start
    · rfl
    · exact replaced_of_isNameChar (by simp [isNameChar, start])
  rw [same]
  exact isSpace_of_head head

/-- The compound selectors after the first. -/
theorem Lexes.more {cs : List Compound} {ts : List Token}
    (h : Lexes (cs.flatMap fun c => ',' :: ' ' :: c.render.map replaced) ts) :
    ∀ c ∈ cs, c.IsUnbroken := by
  induction cs generalizing ts with
  | nil => exact List.forall_mem_nil _
  | cons c cs ih =>
      rw [List.flatMap_cons] at h
      obtain ⟨_, h⟩ := h.tail rfl
      obtain ⟨_, h⟩ := h.tail rfl
      have stops : stopsIdent (cs.flatMap fun c => ',' :: ' ' :: c.render.map replaced) = true := by
        cases cs <;> rfl
      have text : (cs.flatMap fun c => ',' :: ' ' :: c.render.map replaced).dropWhile isSpace =
          cs.flatMap fun c => ',' :: ' ' :: c.render.map replaced := by
        cases cs <;> rfl
      have h : Lexes (c.render.map replaced ++
          cs.flatMap fun c => ',' :: ' ' :: c.render.map replaced) _ := dropWhile_seen c text ▸ h
      obtain ⟨unbroken, _, h⟩ := h.compound stops
      exact List.forall_mem_cons.2 ⟨unbroken, ih h⟩

/-- A list of compound selectors with a broken string has no tokens. -/
theorem Lexes.unbroken {cs : List Compound} {ts : List Token}
    (h : Lexes ((render cs).map replaced) ts) : ∀ c ∈ cs, c.IsUnbroken := by
  cases cs with
  | nil => exact List.forall_mem_nil _
  | cons c cs =>
      rw [map_replaced_render, List.map_cons, intercalate_cons, List.flatMap_map] at h
      have stops : stopsIdent (cs.flatMap fun c => ',' :: ' ' :: c.render.map replaced) = true := by
        cases cs <;> rfl
      obtain ⟨unbroken, _, h⟩ := h.compound stops
      exact List.forall_mem_cons.2 ⟨unbroken, h.more⟩

/-! ### What is read -/

theorem Compound.Asks.seen {c : Compound} (h : c.Asks) : c.seen.Asks := by
  intro none
  have := h none
  simpa [Compound.seen] using this

/-- **A list of compound selectors is read exactly if no string in it is broken**, and then with the
values that come out. -/
theorem reads_preprocess_render_iff {cs : List Compound} (hne : cs ≠ []) (h : ∀ c ∈ cs, c.Asks)
    (ds : List ReadCompound) :
    Reads (preprocess (render cs)) ds ↔
      (∀ c ∈ cs, c.IsUnbroken) ∧ ds = cs.map fun c => c.seen.read := by
  rw [preprocess_eq_map (newline_not_mem_render cs)]
  have whole (unbroken : ∀ c ∈ cs, c.IsUnbroken) :
      Reads ((render cs).map replaced) (cs.map fun c => c.seen.read) := by
    have text : (render cs).map replaced = render (cs.map Compound.seen) := by
      rw [map_replaced_render, render, List.map_map]
      exact congrArg _ (List.map_congr_left fun c hc => map_replaced_compound (unbroken c hc))
    have read : Reads (render (cs.map Compound.seen)) _ := reads_render (by simpa using hne)
      (List.forall_mem_map.2 fun c hc => (h c hc).seen)
    rwa [← text, List.map_map] at read
  constructor
  · intro reads
    obtain ⟨ts, lexes, _⟩ := id reads
    exact ⟨lexes.unbroken, reads.unique (whole lexes.unbroken)⟩
  · rintro ⟨unbroken, rfl⟩
    exact whole unbroken

theorem replaced_eq_self_iff {c : Char} :
    replaced c = c ↔ c ≠ '\r' ∧ c ≠ '\x0c' ∧ c ≠ '\x00' := by
  by_cases broken : isBreak c = true
  · rcases isBreak_iff.1 broken with rfl | rfl <;> decide
  · by_cases null : c = '\x00'
    · subst null
      decide
    · rw [isBreak_iff, not_or] at broken
      simp [replaced, isBreak, broken, null]

theorem Attribute.read_seen_iff {a : Attribute} :
    a.seen.read = a.read ↔ ∀ x ∈ a.value.toList, replaced x = x := by
  have same : a.value.toList.map replaced = a.value.toList ↔
      ∀ x ∈ a.value.toList, replaced x = x := by
    conv_lhs => rhs; rw [← List.map_id a.value.toList]
    exact List.map_inj_left
  rw [← same]
  simp [Attribute.seen, Attribute.read]

theorem Compound.read_seen_iff {c : Compound} :
    c.seen.read = c.read ↔ ∀ a ∈ c.attributes, a.seen.read = a.read := by
  have same : c.attributes.map (fun a => a.seen.read) = c.attributes.map Attribute.read ↔
      ∀ a ∈ c.attributes, a.seen.read = a.read := List.map_inj_left
  rw [← same]
  simp [Compound.seen, Compound.read, Function.comp_def]

/-- **A compound selector is read as it was exactly if its values have no carriage return, form feed
or null character.** -/
theorem reads_back_iff {c : Compound} (h : c.Asks) :
    (∀ ds, Reads (preprocess c.render) ds ↔ c.IsUnbroken ∧ ds = [c.seen.read]) ∧
      (Reads (preprocess c.render) [c.read] ↔
        ∀ a ∈ c.attributes, ∀ x ∈ a.value.toList, x ≠ '\r' ∧ x ≠ '\x0c' ∧ x ≠ '\x00') := by
  have one : render [c] = c.render := by simp [render]
  have reads := reads_preprocess_render_iff (List.cons_ne_nil c []) (by simpa using h)
  rw [one] at reads
  have reads (ds : List ReadCompound) :
      Reads (preprocess c.render) ds ↔ c.IsUnbroken ∧ ds = [c.seen.read] := by
    simpa using reads ds
  refine ⟨reads, (reads _).trans ?_⟩
  rw [List.singleton_inj, eq_comm, Compound.read_seen_iff]
  constructor
  · rintro ⟨-, same⟩ a ha x hx
    exact replaced_eq_self_iff.1 (Attribute.read_seen_iff.1 (same a ha) x hx)
  · intro plain
    refine ⟨fun a ha x hx => ?_, fun a ha => ?_⟩
    · obtain ⟨hr, hf, -⟩ := plain a ha x hx
      simp [isBreak, hr, hf]
    · exact Attribute.read_seen_iff.2 fun x hx => replaced_eq_self_iff.2 (plain a ha x hx)

/-- A value with a quote and a line feed. -/
theorem reads_back_quote_newline :
    Reads (preprocess "p[title=\"a\\\"b\\a c\"]".toList)
      [⟨some "p".toList, [⟨"title".toList, .equals, "a\"b\nc".toList⟩]⟩] := by
  let c : Compound := ⟨some ⟨"p".toList, by decide⟩,
    [⟨⟨"title".toList, by decide⟩, .equals, "a\"b\nc"⟩]⟩
  exact (reads_back_iff (c := c) (by simp [Compound.Asks, c])).2.2 (by simp [c])

/-- A carriage return in a value breaks the string. -/
theorem not_reads_carriage_return :
    (Expression.attr "class" (.relation .equals) "a\rb").compile =
        .ok ⟨.css, "[class=\"a\rb\"]"⟩ ∧
      ∀ ds, ¬Reads (preprocess "[class=\"a\rb\"]".toList) ds := by
  refine ⟨rfl, fun ds reads => ?_⟩
  let c : Compound := ⟨none, [⟨⟨"class".toList, by decide⟩, .equals, "a\rb"⟩]⟩
  have read := reads_preprocess_render_iff (List.cons_ne_nil c [])
    (by simp [Compound.Asks, c]) ds
  have unbroken := (read.1 reads).1
  exact absurd (unbroken c List.mem_cons_self _ List.mem_cons_self '\r' (by decide)) (by decide)

end WebDriverClient.Locator.Css
