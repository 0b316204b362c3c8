/-
**Names of digits stand for themselves.**

A domain name whose labels are digits is its own ASCII form: no character of it is replaced, no
label begins with a mark and none is written from right to left.  The last two are said by tables.
A table is read from its text entry by entry, so one pass through its entries tells that all marks
come after ASCII, and the first entries tell how digits behave.

Main results:

* `Text.of_isDigit` — what holds of the ten digits holds of every digit;
* `Domain.ofText?_digits` — **the ASCII form of a name of digits**.
-/

import WebDriverClient.Proofs.Text.Tables
import WebDriverClient.Proofs.Url.Characters

set_option autoImplicit false

namespace WebDriverClient

/-! ### What tables say of digits -/

/-- What holds of every digit. -/
theorem Text.of_isDigit {p : Char → Prop} (check : ∀ d < 10, p (Char.ofNat (0x30 + d))) {c : Char}
    (h : c.isDigit = true) : p c := by
  obtain ⟨low, high⟩ : 0x30 ≤ c.toNat ∧ c.toNat ≤ 0x39 := Char.isDigit_iff_toNat.1 h
  have here := check (c.toNat - 0x30) (by omega)
  have same : 0x30 + (c.toNat - 0x30) = c.toNat := by omega
  rwa [same, Char.ofNat_toNat] at here

-- The characters of a table are a list as long as the table is.
set_option maxRecDepth 100000 in
/-- All marks come after ASCII. -/
theorem Text.marks_above : Text.marks.all (fun entry => decide (0x80 ≤ entry.headD 0)) = true := by
  have eq : Text.marks = Table.entriesFrom [] none _ := Table.entries_ofList _
  rw [eq]
  decide +kernel

/-- An ASCII character is no mark. -/
theorem Text.isMark_of_lt {c : Char} (ascii : c.toNat < 0x80) : isMark c = false :=
  Table.contains_of_lt marks_above ascii

namespace Url.Domain

set_option maxRecDepth 100000 in
/-- Digits are European digits. -/
theorem find?_directions : ∀ d < 10, Table.find? directions (0x30 + d) = some 4 := by
  have eq : directions = Table.entriesFrom [] none _ := Table.entries_ofList _
  rw [eq]
  decide +kernel

theorem Direction.ofChar_digit {c : Char} (digit : c.isDigit = true) :
    ofChar c = .europeanNumber := by
  have found : Table.find? directions c.toNat = some 4 := by
    obtain ⟨low, high⟩ : 0x30 ≤ c.toNat ∧ c.toNat ≤ 0x39 := Char.isDigit_iff_toNat.1 digit
    have found := find?_directions (c.toNat - 0x30) (by omega)
    have same : 0x30 + (c.toNat - 0x30) = c.toNat := by omega
    exact same ▸ found
  rw [ofChar, found]
  rfl

/-! ### Names of digits -/

section Labels

variable {labels : List (List Char)} (digits : ∀ label ∈ labels, ∀ c ∈ label, c.isDigit = true)

include digits

/-- The characters of labels of digits. -/
theorem isDigit_or_dot : ∀ c ∈ ['.'].intercalate labels, c.isDigit = true ∨ c = '.' := by
  intro c mem
  obtain ⟨part, memPart, mem⟩ := List.mem_flatten.1 mem
  rcases mem_of_mem_intersperse memPart with rfl | memPart
  · exact .inr (List.mem_singleton.1 mem)
  · exact .inl (digits part memPart c mem)

/-- A name is cut into its labels. -/
theorem splitOnP_labels (notEmpty : labels ≠ []) :
    (['.'].intercalate labels).splitOnP (· = '.') = labels := by
  refine List.splitOn_intercalate '.' (fun label mem dot => ?_) notEmpty
  exact absurd (digits label mem '.' dot) (by decide)

end Labels

/-- Digits and periods stand for themselves. -/
theorem mapChar?_digit {c : Char} (h : c.isDigit = true ∨ c = '.') : mapChar? c = some [c] := by
  have plain : c.toNat < 0x80 ∧ c.toLower = c := by
    rcases h with digit | rfl
    · exact Text.of_isDigit (p := fun c => c.toNat < 0x80 ∧ c.toLower = c) (by decide) digit
    · decide
  rw [mapChar?, if_pos plain.1, plain.2]

theorem mapped?_digits {s : List Char} (h : ∀ c ∈ s, c.isDigit = true ∨ c = '.') :
    mapped? s = some s := by
  have each : s.mapM mapChar? = some (s.map ([·])) :=
    List.mapM_eq_some_map fun c mem => mapChar?_digit (h c mem)
  have flat : (s.map ([·])).flatten = s := by
    rw [← List.flatMap_def, List.flatMap_singleton']
  have small : (s.all fun c => decide (c.toNat < 0xC0)) = true := by
    refine List.all_eq_true.2 fun c mem => ?_
    rcases h c mem with digit | rfl
    · exact Text.of_isDigit (p := fun c => decide (c.toNat < 0xC0) = true) (by decide) digit
    · decide
  rw [mapped?, each, Option.map_some, flat, Text.normalize, if_pos small]

theorem joinersAllowedFrom_digits (before : List Char) {label : List Char}
    (h : ∀ c ∈ label, c.isDigit = true) : joinersAllowedFrom before label = true := by
  induction label generalizing before with
  | nil => rfl
  | cons c label ih =>
      obtain ⟨here, rest⟩ := List.forall_mem_cons.1 h
      have other : c ≠ '\u200D' ∧ c ≠ '\u200C' :=
        Text.of_isDigit (p := fun c => c ≠ '\u200D' ∧ c ≠ '\u200C') (by decide) here
      rw [joinersAllowedFrom, if_neg other.1, if_neg other.2, ih _ rest]
      rfl

/-- A label of digits is the label that is meant. -/
theorem label?_digits {label : List Char} (h : ∀ c ∈ label, c.isDigit = true) :
    label? label = some label := by
  have unmarked : afterMark? label = none := by
    unfold afterMark?
    split
    next => exact absurd (h 'x' List.mem_cons_self) (by decide)
    next => rfl
  have allowed : label.any isForbidden = false := by
    refine List.any_eq_false.2 fun c mem => ?_
    exact Text.of_isDigit (p := fun c => ¬ isForbidden c = true) (by decide) (h c mem)
  have noMark : label.head?.any Text.isMark = false := by
    cases label with
    | nil => rfl
    | cons c label =>
        have ascii : c.toNat < 0x80 :=
          Text.of_isDigit (p := (·.toNat < 0x80)) (by decide) (h c List.mem_cons_self)
        rw [List.head?_cons, Option.any_some, Text.isMark_of_lt ascii]
  have wellFormed : isWellFormed label = true := by
    rw [isWellFormed, allowed, noMark, joinersAllowed, joinersAllowedFrom_digits [] h]
    rfl
  rw [label?, unmarked]
  exact if_pos wellFormed

/-- A name whose labels are digits is its own ASCII form. -/
theorem ofText?_digits {labels : List (List Char)} (notEmpty : labels ≠ [])
    (digits : ∀ label ∈ labels, ∀ c ∈ label, c.isDigit = true) :
    ofText? (String.ofList (['.'].intercalate labels)) = some (['.'].intercalate labels) := by
  have meant : labels.mapM label? = some labels := by
    rw [List.mapM_eq_some_map fun label mem => label?_digits (digits label mem), List.map_id']
  have left : labels.any isRightToLeft = false := by
    refine List.any_eq_false.2 fun label mem => ?_
    rw [isRightToLeft, Bool.not_eq_true, List.any_eq_false]
    intro c here
    rw [Direction.ofChar_digit (digits label mem c here)]
    decide
  have encoded : labels.map encode = labels := by
    refine (List.map_congr_left fun label mem => ?_).trans (List.map_id labels)
    refine if_pos (List.all_eq_true.2 fun c here => ?_)
    exact Text.of_isDigit (p := fun c => isAscii c = true) (by decide) (digits label mem c here)
  simp only [ofText?, String.toList_ofList, mapped?_digits (isDigit_or_dot digits),
    Option.bind_eq_bind, Option.bind_some, splitOnP_labels digits notEmpty, meant, left,
    Bool.false_and, Bool.false_eq_true, ↓reduceIte, encoded]

end Url.Domain

end WebDriverClient
