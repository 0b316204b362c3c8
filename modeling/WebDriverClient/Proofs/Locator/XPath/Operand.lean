/-
**Values in XPath.**

A string of XPath ends at the first quote of its own kind, so a value with both quotes is put
together from strings that each hold one kind.  The strings denote the value, and none of them holds
its own quote.

Main definitions:

* `XPath.Literal.Closed` — a string ends where its last quote stands.

Main results:

* `XPath.Operand.denote_ofValue` — an operand denotes the value that it is made for;
* `XPath.Operand.closed_ofValue` — none of its strings ends early;
* `XPath.Operand.two_le_length_of_ofValue` — no string is put together with nothing.
-/

import WebDriverClient.Locator.XPath

set_option autoImplicit false

namespace WebDriverClient.Locator.XPath

/-! ### Pieces -/

/-- The pieces of a text are what the library's function splits it into. -/
theorem pieces_eq_splitOn (separator : Char) (text : List Char) :
    pieces separator text = text.splitOn separator := by
  induction text with
  | nil => rfl
  | cons c rest ih =>
      rw [pieces, ih, List.splitOn_cons_eq_if_modifyHead]
      cases h : rest.splitOn separator with
      | nil => exact absurd h (List.splitOn_ne_nil separator rest)
      | cons piece more => simp

/-- The pieces of a text, with the separator put between them again, are the text. -/
theorem intercalate_pieces (separator : Char) (text : List Char) :
    [separator].intercalate (pieces separator text) = text := by
  rw [pieces_eq_splitOn, List.intercalate_splitOn]

theorem separator_not_mem_pieces {separator : Char} {text piece : List Char}
    (h : piece ∈ pieces separator text) : separator ∉ piece := by
  induction text generalizing piece with
  | nil =>
      obtain rfl := List.mem_singleton.1 h
      simp
  | cons c rest ih =>
      rw [pieces] at h
      split at h
      next hp => exact absurd (hp ▸ pieces_eq_splitOn separator rest).symm (List.splitOn_ne_nil _ _)
      next first more hp =>
        have firstOk := ih (hp ▸ List.mem_cons_self)
        split at h
        next =>
          rcases List.mem_cons.1 h with rfl | h
          · simp
          · exact ih (hp ▸ h)
        next hc =>
          rcases List.mem_cons.1 h with rfl | h
          · simpa [firstOk] using fun he => hc he.symm
          · exact ih (hp ▸ List.mem_cons_of_mem _ h)

/-! ### Operands -/

/-- **An operand denotes the value that it is made for.** -/
theorem Operand.denote_ofValue (value : List Char) : (Operand.ofValue value).denote = value := by
  unfold Operand.ofValue
  split
  · rfl
  · split
    · rfl
    · have glue : ∀ ps : List (List Char),
          (((ps.map (Literal.mk '"')).intersperse ⟨'\'', ['"']⟩).flatMap (·.inner)) =
            ['"'].intercalate ps := by
        intro ps
        induction ps with
        | nil => rfl
        | cons p ps ih =>
            cases ps with
            | nil => simp [List.intercalate]
            | cons q qs => simp_all [List.intercalate, List.intersperse]
      rw [denote, glue, intercalate_pieces]

/-- The string is between quotes, and ends where its last quote stands. -/
def Literal.Closed (l : Literal) : Prop := (l.quote = '"' ∨ l.quote = '\'') ∧ l.quote ∉ l.inner

/-- The strings of an operand. -/
def Operand.literals : Operand → List Literal
  | .literal l => [l]
  | .concat ls => ls

theorem mem_intersperse {α : Type} {s x : α} {xs : List α} (h : x ∈ xs.intersperse s) :
    x ∈ xs ∨ x = s := by
  induction xs with
  | nil => cases h
  | cons y ys ih =>
      cases ys with
      | nil => exact .inl h
      | cons z zs =>
          rw [List.intersperse_cons_cons, List.mem_cons, List.mem_cons] at h
          rcases h with rfl | rfl | h
          · simp
          · simp
          · exact (ih h).imp (List.mem_cons_of_mem y) id

/-- **No value ends a string that it stands in.** -/
theorem Operand.closed_ofValue (value : List Char) :
    ∀ l ∈ (Operand.ofValue value).literals, l.Closed := by
  unfold Operand.ofValue
  split
  next h => simpa [literals, Literal.Closed] using h
  next =>
    split
    next h => simpa [literals, Literal.Closed] using h
    next =>
      intro l hl
      rcases mem_intersperse hl with hl | rfl
      · obtain ⟨piece, hp, rfl⟩ := List.mem_map.1 hl
        exact ⟨.inl rfl, separator_not_mem_pieces hp⟩
      · exact ⟨.inr rfl, by decide⟩

theorem length_pieces (separator : Char) (text : List Char) :
    (pieces separator text).length = text.count separator + 1 := by
  induction text with
  | nil => rfl
  | cons c rest ih =>
      rw [pieces]
      split
      next hp => simp [hp] at ih
      next first more hp =>
        rw [hp] at ih
        split
        next hc => simp_all
        next hc => simp_all

/-- Strings are only put together where there are two at least. -/
theorem Operand.two_le_length_of_ofValue {value : List Char} {ls : List Literal}
    (h : Operand.ofValue value = .concat ls) : 2 ≤ ls.length := by
  unfold Operand.ofValue at h
  split at h
  next => cases h
  next hq =>
    split at h
    next => cases h
    next =>
      cases h
      have some_quote : 0 < value.count '"' := List.count_pos_iff.2 (by simpa using hq)
      rw [List.length_intersperse, List.length_map, length_pieces]
      omega

end WebDriverClient.Locator.XPath
