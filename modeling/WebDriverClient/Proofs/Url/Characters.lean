/-
**The characters of hosts.**

Whatever is read as a host under a scheme that knows hosts is shown in characters that end no
authority: no slash of either kind, no question mark, no number sign, no at sign and no blank.  A
name is made of labels that hold no such character, or of their ASCII forms, which only letters,
digits and hyphens are added to; addresses are shown in digits, periods, colons and brackets.

Main definitions:

* `isAuthorityChar` — the characters that may stand in an authority;
* `Host.IsShown` — the form of a host is not empty and holds no other character.

Main results:

* `Domain.isForbidden_of_mem_ofText?` — the characters of the ASCII form of a name;
* `Host.isShown_of_parse` — **the host that a text is read as**.
-/

import Mathlib.Data.Bool.AllAny
import Mathlib.Tactic.Common
import Mathlib.Tactic.IntervalCases
import WebDriverClient.Proofs.Outcome
import WebDriverClient.Url.Host

set_option autoImplicit false

namespace WebDriverClient.Url

/-- The character neither ends an authority nor divides it, and it is not a blank. -/
def isAuthorityChar (c : Char) : Bool := 0x20 < c.toNat && !"/\\?#@".toList.contains c

/-! ### Single characters -/

/-- A character that has all the others against it. -/
theorem isAuthorityChar_of {c : Char} (visible : 0x20 < c.toNat)
    (other : c ∉ "/\\?#@".toList) : isAuthorityChar c = true := by
  have absent : "/\\?#@".toList.contains c = false := by
    rw [Bool.eq_false_iff]
    exact fun h => other (List.contains_iff_mem.1 h)
  rw [isAuthorityChar, absent, decide_eq_true visible]
  rfl

/-- What holds of all ASCII characters. -/
theorem of_ascii {p : Char → Prop} (check : ∀ n < 0x80, p (Char.ofNat n)) {c : Char}
    (ascii : c.toNat < 0x80) : p c := by
  have here := check c.toNat ascii
  rwa [Char.ofNat_toNat] at here

theorem isAuthorityChar_of_isForbidden {c : Char} (h : Domain.isForbidden c = false) :
    isAuthorityChar c = true := by
  simp only [Domain.isForbidden, Bool.or_eq_false_iff, decide_eq_false_iff_not] at h
  obtain ⟨⟨visible, -⟩, other⟩ := h
  refine isAuthorityChar_of (Nat.lt_of_not_le visible) fun mem => ?_
  have listed : ∀ d ∈ "/\\?#@".toList, "%#/:<>?@[\\]^|".toList.contains d = true :=
    List.all_iff_forall_prop.1 (by decide)
  exact absurd (listed c mem) (Bool.eq_false_iff.1 other)

theorem isAuthorityChar_of_isAlphanum {c : Char} (h : c.isAlphanum = true) :
    isAuthorityChar c = true := by
  refine isAuthorityChar_of ?_ fun mem => ?_
  · -- No blank is a letter or a digit.
    have blanks : ∀ n < 0x21, (Char.ofNat n).isAlphanum = false := by decide
    refine Nat.lt_of_not_le fun blank => ?_
    have other := blanks c.toNat (Nat.lt_succ_of_le blank)
    rw [Char.ofNat_toNat] at other
    exact absurd h (Bool.eq_false_iff.1 other)
  · have none : ∀ d ∈ "/\\?#@".toList, d.isAlphanum = false :=
      List.all_iff_forall_prop.1 (by decide)
    exact absurd h (Bool.eq_false_iff.1 (none c mem))

/-! ### Numbers -/

/-- The digits of a number in a base up to sixteen are letters and digits. -/
theorem isAlphanum_digitChar {n : Nat} (h : n < 16) : (Nat.digitChar n).isAlphanum = true := by
  interval_cases n <;> decide

theorem isAlphanum_of_mem_toDigits {b : Nat} (two : 1 < b) (sixteen : b ≤ 16) (n : Nat) :
    ∀ c ∈ Nat.toDigits b n, c.isAlphanum = true := by
  -- The digits of a number are those of its quotient and then the last.
  induction n using Nat.strongRecOn with
  | ind n ih =>
      intro c mem
      rcases Nat.lt_or_ge n b with small | large
      · rw [Nat.toDigits_of_lt_base small, List.mem_singleton] at mem
        exact mem ▸ isAlphanum_digitChar (by omega)
      · rw [Nat.toDigits_of_base_le two large, List.mem_append, List.mem_singleton] at mem
        rcases mem with mem | rfl
        · exact ih (n / b) (Nat.div_lt_self (by omega) two) c mem
        · exact isAlphanum_digitChar (Nat.lt_of_lt_of_le (Nat.mod_lt n (by omega)) sixteen)

theorem isAuthorityChar_decimal (n : Nat) : ∀ c ∈ decimal n, isAuthorityChar c = true :=
  fun c mem => isAuthorityChar_of_isAlphanum
    (isAlphanum_of_mem_toDigits (by decide) (by decide) n c mem)

/-! ### Addresses -/

theorem Ipv4.isAuthorityChar_text (a : Ipv4) : ∀ c ∈ a.text, isAuthorityChar c = true := by
  have dot : isAuthorityChar '.' = true := by decide
  simp only [text, List.append_assoc, List.forall_mem_append, List.cons_append,
    List.forall_mem_cons]
  exact ⟨isAuthorityChar_decimal _, dot, isAuthorityChar_decimal _, dot, isAuthorityChar_decimal _,
    dot, isAuthorityChar_decimal _⟩

theorem mem_of_mem_intersperse {α : Type} {a sep : α} {l : List α} (h : a ∈ l.intersperse sep) :
    a = sep ∨ a ∈ l := by
  induction l with
  | nil => nomatch h
  | cons first rest ih =>
      cases rest with
      | nil => exact Or.inr h
      | cons next rest =>
          rcases List.mem_cons.1 h with rfl | h
          · exact Or.inr List.mem_cons_self
          · rcases List.mem_cons.1 h with rfl | h
            · exact Or.inl rfl
            · exact (ih h).imp_right fun mem => List.mem_cons_of_mem _ mem

theorem Ipv6.isAuthorityChar_joined (pieces : List UInt16) :
    ∀ c ∈ joined pieces, isAuthorityChar c = true := by
  intro c mem
  obtain ⟨part, memPart, mem⟩ := List.mem_flatten.1 mem
  rcases mem_of_mem_intersperse memPart with rfl | memPart
  · rw [List.mem_singleton.1 mem]
    decide
  · obtain ⟨piece, -, rfl⟩ := List.mem_map.1 memPart
    exact isAuthorityChar_of_isAlphanum
      (isAlphanum_of_mem_toDigits (by decide) (by decide) piece.toNat c mem)

theorem Ipv6.isAuthorityChar_text (a : Ipv6) : ∀ c ∈ a.text, isAuthorityChar c = true := by
  unfold text
  split
  split
  next => exact isAuthorityChar_joined _
  next =>
    simp only [List.forall_mem_append]
    have gap : ∀ c ∈ [':', ':'], isAuthorityChar c = true :=
      List.all_iff_forall_prop.1 (by decide)
    exact ⟨⟨isAuthorityChar_joined _, gap⟩, isAuthorityChar_joined _⟩

/-! ### Names -/

/-- The characters that numbers are written in. -/
def Punycode.isCodeChar (c : Char) : Bool := c.isLower || c.isDigit

theorem Punycode.isCodeChar_digitChar {d : Nat} (h : d < 36) : isCodeChar (digitChar d) = true := by
  interval_cases d <;> decide

theorem Punycode.isCodeChar_digits (bias weight q : Nat) :
    ∀ c ∈ digits bias weight q, isCodeChar c = true := by
  induction weight, q using digits.induct bias with
  | case1 weight q t last =>
      intro c mem
      have bounds := threshold_bounds weight bias
      rw [digits, if_pos last, List.mem_singleton] at mem
      exact mem ▸ isCodeChar_digitChar (by omega)
  | case2 weight q t more ih =>
      intro c mem
      have bounds := threshold_bounds weight bias
      rw [digits, if_neg more] at mem
      rcases List.mem_cons.1 mem with rfl | mem
      · have room := Nat.mod_lt (q - threshold weight bias)
          (show 0 < 36 - threshold weight bias by omega)
        exact isCodeChar_digitChar (by omega)
      · exact ih c mem

/-- What has been written of a label is lower-case letters and digits, also after one more
position. -/
theorem Punycode.isCodeChar_pass (basic : Nat) (w : Writing) (c : Char)
    (h : ∀ d ∈ w.output, isCodeChar d = true) :
    ∀ d ∈ (w.pass basic c).output, isCodeChar d = true := by
  unfold Writing.pass
  split
  next => exact h
  next =>
    split
    next =>
      refine List.forall_mem_append.2 ⟨fun d mem => ?_, h⟩
      exact isCodeChar_digits _ _ _ d (List.mem_reverse.1 mem)
    next => exact h

theorem Punycode.isCodeChar_reach (basic : Nat) (label : List Char) (w : Writing) (n : Nat)
    (h : ∀ d ∈ w.output, isCodeChar d = true) :
    ∀ d ∈ (w.reach basic label n).output, isCodeChar d = true := by
  have passed (w : Writing) (label : List Char) (h : ∀ d ∈ w.output, isCodeChar d = true) :
      ∀ d ∈ (label.foldl (Writing.pass basic) w).output, isCodeChar d = true := by
    induction label generalizing w with
    | nil => exact h
    | cons c cs ih => exact ih _ (isCodeChar_pass basic w c h)
  exact passed _ label h

/-- The numbers of a label are written in lower-case letters and digits. -/
theorem Punycode.isCodeChar_reachAll (basic written : Nat) (label : List Char) (ns : List Nat) :
    ∀ d ∈ (ns.foldl (Writing.reach basic label) { written }).output, isCodeChar d = true := by
  refine List.foldlRecOn ns (Writing.reach basic label)
    (motive := fun w => ∀ d ∈ w.output, isCodeChar d = true) ?_
    fun w h n _ => isCodeChar_reach basic label w n h
  exact fun d mem => (List.not_mem_nil mem).elim

/-- The ASCII form of a label has its ASCII characters, hyphens, lower-case letters and digits. -/
theorem Punycode.mem_encode {label : List Char} {c : Char} (h : c ∈ encode label) :
    (c ∈ label ∧ c.toNat < 0x80) ∨ c = '-' ∨ isCodeChar c = true := by
  unfold encode at h
  simp only [List.mem_append] at h
  rcases h with (basic | hyphen) | written
  · obtain ⟨mem, ascii⟩ := List.mem_filter.1 basic
    exact .inl ⟨mem, of_decide_eq_true ascii⟩
  · split at hyphen
    next => exact (List.not_mem_nil hyphen).elim
    next => exact .inr (.inl (List.mem_singleton.1 hyphen))
  · exact .inr (.inr (isCodeChar_reachAll _ _ _ _ c (List.mem_reverse.1 written)))

theorem Punycode.lt_of_isCodeChar {c : Char} (h : isCodeChar c = true) : c.toNat < 0x80 := by
  rcases Bool.or_eq_true_iff.1 h with lower | digit
  · have small : c.val ≤ 'z'.val := of_decide_eq_true (Bool.and_eq_true_iff.1 lower).2
    exact Nat.lt_of_le_of_lt (UInt32.le_iff_toNat_le.1 small) (by decide)
  · exact Nat.lt_of_le_of_lt (Char.isDigit_iff_toNat.1 digit).2 (by decide)

/-- What holds of all code characters. -/
theorem Punycode.of_isCodeChar {p : Char → Prop}
    (check : ∀ n < 0x80, isCodeChar (Char.ofNat n) = true → p (Char.ofNat n)) {c : Char}
    (h : isCodeChar c = true) : p c :=
  of_ascii (p := fun c => isCodeChar c = true → p c) check (lt_of_isCodeChar h) h

/-- The form of a label that may stand in a name. -/
theorem Domain.isForbidden_of_mem_encode {label : List Char} (h : isWellFormed label = true) :
    ∀ c ∈ encode label, isForbidden c = false := by
  have allowed : ∀ c ∈ label, isForbidden c = false := by
    simp only [isWellFormed, Bool.and_eq_true, Bool.not_eq_true', List.any_eq_false,
      Bool.not_eq_true] at h
    exact h.1.1
  unfold encode
  split
  next => exact allowed
  next =>
    have mark : ∀ c ∈ ['x', 'n', '-', '-'], isForbidden c = false :=
      List.all_iff_forall_prop.1 (by decide)
    refine List.forall_mem_append.2 ⟨mark, fun c mem => ?_⟩
    rcases Punycode.mem_encode mem with ⟨mem, -⟩ | rfl | code
    · exact allowed c mem
    · decide
    · exact Punycode.of_isCodeChar (p := (isForbidden · = false)) (by decide) code

/-- A label that is meant may stand in a name. -/
theorem Domain.isWellFormed_of_label? {s label : List Char} (h : label? s = some label) :
    isWellFormed label = true := by
  -- Both a label without the mark and one with it end in this check.
  have checked {meant : List Char}
      (h : (if isWellFormed meant then some meant else none) = some label) :
      isWellFormed label = true := by
    split at h
    next wellFormed => exact Option.some.inj h ▸ wellFormed
    next => nomatch h
  unfold label? at h
  dsimp only at h
  split at h
  next => exact checked h
  next coded _ =>
    obtain ⟨meant, -, h⟩ := Option.bind_eq_some_iff.1 h
    split at h
    next => nomatch h
    next => exact checked h

/-- No name holds what is forbidden. -/
theorem Domain.isForbidden_of_mem_ofText? {s : String} {name : List Char}
    (h : ofText? s = some name) : ∀ c ∈ name, isForbidden c = false := by
  unfold ofText? at h
  obtain ⟨mapped, -, h⟩ := Option.bind_eq_some_iff.1 h
  obtain ⟨labels, meant, h⟩ := Option.bind_eq_some_iff.1 h
  split at h
  next => nomatch h
  next =>
    obtain rfl := Option.some.inj h
    have wellFormed : ∀ label ∈ labels, isWellFormed label = true := fun label mem =>
      have ⟨_, _, here⟩ := List.exists_of_mem_mapM meant label mem
      isWellFormed_of_label? here
    intro c mem
    obtain ⟨part, memPart, mem⟩ := List.mem_flatten.1 mem
    rcases mem_of_mem_intersperse memPart with rfl | memPart
    · rw [List.mem_singleton.1 mem]
      decide
    · obtain ⟨label, memLabel, rfl⟩ := List.mem_map.1 memPart
      exact isForbidden_of_mem_encode (wellFormed label memLabel) c mem

/-! ### Hosts -/

/-- What is known of a host that has been read: its form is not empty, and its characters may stand
in an authority. -/
structure Host.IsShown (host : Host) : Prop where
  /-- There is something to show. -/
  ne_nil : host.text ≠ []
  /-- No character ends the authority or divides it. -/
  chars : ∀ c ∈ host.text, isAuthorityChar c = true

theorem Ipv4.text_ne_nil (a : Ipv4) : a.text ≠ [] := by
  simp [text]

theorem Host.isShown_ipv4 (a : Ipv4) : (Host.ipv4 a).IsShown :=
  ⟨a.text_ne_nil, a.isAuthorityChar_text⟩

theorem Host.isShown_ipv6 (a : Ipv6) : (Host.ipv6 a).IsShown := by
  refine ⟨List.cons_ne_nil _ _, ?_⟩
  have opening : isAuthorityChar '[' = true := by decide
  have closing : ∀ c ∈ [']'], isAuthorityChar c = true :=
    List.all_iff_forall_prop.1 (by decide)
  exact List.forall_mem_cons.2 ⟨opening, List.forall_mem_append.2 ⟨a.isAuthorityChar_text, closing⟩⟩

/-- The host of a name that holds only such characters. -/
theorem Host.isShown_of_ofName {name : List Char} {host : Host} (h : ofName name = .ok host)
    (chars : ∀ c ∈ name, isAuthorityChar c = true) : host.IsShown := by
  unfold ofName at h
  split at h
  next => nomatch h
  next notEmpty =>
    split at h
    next =>
      split at h
      next a _ => exact Except.ok.inj h ▸ isShown_ipv4 a
      next => nomatch h
    next =>
      obtain rfl := Except.ok.inj h
      exact ⟨fun empty => notEmpty (List.isEmpty_iff.2 empty), chars⟩

/-- The host that a text is read as. -/
theorem Host.isShown_of_parse {s : List Char} {host : Host} (h : parse s = .ok host) :
    host.IsShown := by
  unfold parse at h
  split at h
  next rest =>
    unfold parseBracketed at h
    split at h
    next =>
      split at h
      next a _ => exact Except.ok.inj h ▸ isShown_ipv6 a
      next => nomatch h
    next => nomatch h
  next =>
    split at h
    next => nomatch h
    next decoded _ =>
      split at h
      next => nomatch h
      next name form => exact isShown_of_ofName h fun c mem =>
        isAuthorityChar_of_isForbidden (Domain.isForbidden_of_mem_ofText? form c mem)

end WebDriverClient.Url
