/-
**Names that may stand in a selector.**

A selector is text, so a name that a caller chooses may only be spliced into it if no selector
language can read it otherwise.  Such a name is an ASCII letter or underscore, followed by ASCII
letters, digits, underscores and hyphens; it is a CSS identifier and an XML name at once.

Main definitions:

* `Locator.isName` — the rule, on characters;
* `Locator.Name` — the names that follow it.
-/

set_option autoImplicit false

namespace WebDriverClient.Locator

/-- An ASCII letter or an underscore. -/
def isNameStart (c : Char) : Bool := c.isAlpha || c == '_'

/-- A character of a name after the first. -/
def isNameChar (c : Char) : Bool := isNameStart c || c.isDigit || c == '-'

/-- A name starts with a letter or underscore and goes on with letters, digits, underscores and
hyphens. -/
def isName : List Char → Bool
  | [] => false
  | c :: rest => isNameStart c && rest.all isNameChar

theorem isDigit_iff (c : Char) : c.isDigit = true ↔ '0' ≤ c ∧ c ≤ '9' :=
  Bool.and_eq_true_iff.trans (and_congr decide_eq_true_iff decide_eq_true_iff)

theorem isNameStart_iff (c : Char) :
    isNameStart c = true ↔ 'A' ≤ c ∧ c ≤ 'Z' ∨ 'a' ≤ c ∧ c ≤ 'z' ∨ c = '_' := by
  have upper : c.isUpper = true ↔ 'A' ≤ c ∧ c ≤ 'Z' := decide_eq_true_iff
  have lower : c.isLower = true ↔ 'a' ≤ c ∧ c ≤ 'z' :=
    Bool.and_eq_true_iff.trans (and_congr decide_eq_true_iff decide_eq_true_iff)
  have alpha : c.isAlpha = (c.isUpper || c.isLower) := rfl
  rw [isNameStart, alpha, Bool.or_eq_true, Bool.or_eq_true, beq_iff_eq, upper, lower, or_assoc]

/-- A name that may stand in a selector. -/
structure Name where
  chars : List Char
  valid : isName chars = true
deriving DecidableEq

namespace Name

/-- The name as a text. -/
def text (n : Name) : String := String.ofList n.chars

/-- The name with the given text, if the text is one. -/
def ofString? (s : String) : Option Name :=
  if h : isName s.toList = true then some ⟨s.toList, h⟩ else none

@[simp] theorem text_toList (n : Name) : n.text.toList = n.chars := by simp [text]

theorem ofString?_text (n : Name) : ofString? n.text = some n := by
  simp [ofString?, n.valid]

theorem text_of_ofString? {s : String} {n : Name} (h : ofString? s = some n) : n.text = s := by
  unfold ofString? at h
  split at h
  · cases h; simp [text]
  · cases h

end Name

end WebDriverClient.Locator
