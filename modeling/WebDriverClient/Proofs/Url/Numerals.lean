/-
**Numerals, and IPv4 addresses in their own form.**

A numeral is written digit by digit from the left, and reading it gives the number back.  The
decimal numbers of bytes begin with no zero that would make them octal, so an IPv4 address in its
own form is read as the address that it shows, both where a host stands and at the end of an IPv6
address.

Main definitions:

* `IsDigit` — a digit of a base, in either case, and its value;
* `Numeral` — the numerals of a base and their values.

Main results:

* `Numeral.numeral?_eq` — a numeral is read as its value;
* `Ipv4.parse?_text`, `Ipv4.octets?_text` — **an IPv4 address is read back**;
* `Host.parse_ipv4` — also where any host may stand.
-/

import Mathlib.Tactic.IntervalCases
import WebDriverClient.Proofs.Text.Percent
import WebDriverClient.Proofs.Url.Names
import WebDriverClient.Url.Host

set_option autoImplicit false

namespace WebDriverClient.Url

/-! ### Numerals -/

/-- The character is a digit of the base, in lower or in upper case, and has the value. -/
def IsDigit (base : Nat) (c : Char) (value : Nat) : Prop :=
  value < base ∧ (c = Nat.digitChar value ∨ c = (Nat.digitChar value).toUpper)

/-- The digits are a numeral of the base and have the value. -/
inductive Numeral (base : Nat) : List Char → Nat → Prop
  | digit {c : Char} {v : Nat} (h : IsDigit base c v) : Numeral base [c] v
  | snoc {s : List Char} {n : Nat} {c : Char} {v : Nat} (front : Numeral base s n)
      (h : IsDigit base c v) : Numeral base (s ++ [c]) (n * base + v)

/-- What holds of the digits of base sixteen holds of those of smaller bases. -/
theorem IsDigit.of {p : Char → Prop} {base : Nat} (sixteen : base ≤ 16)
    (check : ∀ v < 16, p (Nat.digitChar v) ∧ p (Nat.digitChar v).toUpper) {c : Char} {value : Nat}
    (h : IsDigit base c value) : p c := by
  obtain ⟨small, rfl | rfl⟩ := h
  · exact (check value (Nat.lt_of_lt_of_le small sixteen)).1
  · exact (check value (Nat.lt_of_lt_of_le small sixteen)).2

theorem IsDigit.digitValue?_eq {base : Nat} (sixteen : base ≤ 16) {c : Char} {value : Nat}
    (h : IsDigit base c value) : digitValue? base c = some value := by
  -- Up to the comparison with the base this is a table of sixteen digits.
  have table : ∀ v < 16, ∀ c, c = Nat.digitChar v ∨ c = (Nat.digitChar v).toUpper →
      ∀ other, (if '0' ≤ c ∧ c ≤ '9' then c.toNat - 0x30
        else if 'a' ≤ c ∧ c ≤ 'f' then c.toNat - 0x57
        else if 'A' ≤ c ∧ c ≤ 'F' then c.toNat - 0x37
        else other) = v := by
    rintro v small c (rfl | rfl) other
    · interval_cases v <;> rfl
    · interval_cases v <;> rfl
  obtain ⟨small, form⟩ := h
  rw [digitValue?, table value (Nat.lt_of_lt_of_le small sixteen) c form base]
  exact if_pos small

/-- A numeral is read as its value. -/
theorem Numeral.numeral?_eq {base : Nat} (sixteen : base ≤ 16) {s : List Char} {n : Nat}
    (h : Numeral base s n) : numeral? base s = some n := by
  induction h with
  | @digit c v digit =>
      rw [numeral?, List.foldl_cons, List.foldl_nil, digit.digitValue?_eq sixteen]
      exact congrArg some ((congrArg (· + v) (Nat.zero_mul base)).trans (Nat.zero_add v))
  | snoc front digit ih =>
      rw [numeral?] at ih ⊢
      rw [List.foldl_append, ih, List.foldl_cons, List.foldl_nil, digit.digitValue?_eq sixteen]
      rfl

theorem Numeral.ne_nil {base : Nat} {s : List Char} {n : Nat} (h : Numeral base s n) : s ≠ [] := by
  cases h <;> simp

theorem Numeral.exists_isDigit {base : Nat} {s : List Char} {n : Nat} (h : Numeral base s n) :
    ∀ c ∈ s, ∃ v, IsDigit base c v := by
  induction h with
  | digit h => exact List.forall_mem_singleton.2 ⟨_, h⟩
  | snoc front h ih =>
      exact List.forall_mem_append.2 ⟨ih, List.forall_mem_singleton.2 ⟨_, h⟩⟩

/-- The digits of a number are a numeral of it. -/
theorem numeral_toDigits {base : Nat} (two : 1 < base) (n : Nat) :
    Numeral base (Nat.toDigits base n) n := by
  induction n using Nat.strongRecOn with
  | ind n ih =>
      rcases Nat.lt_or_ge n base with small | large
      · rw [Nat.toDigits_of_lt_base small]
        exact .digit ⟨small, .inl rfl⟩
      · have last : IsDigit base (Nat.digitChar (n % base)) (n % base) :=
          ⟨Nat.mod_lt n (by omega), .inl rfl⟩
        have whole := (ih (n / base) (Nat.div_lt_self (by omega) two)).snoc last
        rwa [Nat.div_add_mod', ← Nat.toDigits_of_base_le two large] at whole

theorem numeral?_decimal (n : Nat) : numeral? 10 (decimal n) = some n :=
  (numeral_toDigits (by decide) n).numeral?_eq (by decide)

theorem isDigit_decimal (n : Nat) : ∀ c ∈ decimal n, c.isDigit = true :=
  fun _ mem => Nat.isDigit_of_mem_toDigits (by decide) (by decide) mem

theorem decimal_ne_nil (n : Nat) : decimal n ≠ [] :=
  (numeral_toDigits (by decide) n).ne_nil

/-! ### IPv4 addresses -/

namespace Ipv4

variable (a : Ipv4)

/-- The bytes of an address. -/
def octets : List Nat := [a.octet 0, a.octet 1, a.octet 2, a.octet 3]

/-- The parts of the form of an address. -/
def labels : List (List Char) := a.octets.map decimal

theorem text_eq : a.text = ['.'].intercalate a.labels := by
  simp [text, labels, octets, List.intercalate]

theorem lt_of_mem_octets {n : Nat} (h : n ∈ a.octets) : n < 256 := by
  have byte (place : Nat) : a.octet place < 256 := Nat.mod_lt _ (by decide)
  simp only [octets, List.mem_cons, List.not_mem_nil, or_false] at h
  rcases h with rfl | rfl | rfl | rfl <;> exact byte _

theorem isDigit_labels : ∀ label ∈ a.labels, ∀ c ∈ label, c.isDigit = true := by
  intro label mem
  obtain ⟨n, -, rfl⟩ := List.mem_map.1 mem
  exact isDigit_decimal n

/-- The characters of the form of an address. -/
theorem isDigit_or_dot : ∀ c ∈ a.text, c.isDigit = true ∨ c = '.' := by
  rw [text_eq]
  exact Domain.isDigit_or_dot a.isDigit_labels

/-- The form of an address is cut at its periods. -/
theorem splitOnP_text : a.text.splitOnP (· = '.') = a.labels := by
  rw [text_eq]
  exact Domain.splitOnP_labels a.isDigit_labels (List.cons_ne_nil _ _)

/-- The bytes of an address make it up. -/
theorem ofNumbers?_octets : ofNumbers? a.octets = some a := by
  have bytes : [a.octet 2, a.octet 1, a.octet 0].all (· < 256) = true := by
    refine List.all_eq_true.2 fun n mem => decide_eq_true (a.lt_of_mem_octets ?_)
    simp only [octets, List.mem_cons, List.not_mem_nil, or_false] at mem ⊢
    tauto
  have last : a.octet 3 < 256 := Nat.mod_lt _ (by decide)
  have value : (((0 * 256 + a.octet 0) * 256 + a.octet 1) * 256 + a.octet 2) * 256 + a.octet 3
      = a.value.toNat := by
    have small := a.value.toNat_lt
    change (((0 * 256 + a.value.toNat / 16777216 % 256) * 256 + a.value.toNat / 65536 % 256) * 256
      + a.value.toNat / 256 % 256) * 256 + a.value.toNat / 1 % 256 = a.value.toNat
    omega
  have condition : [a.octet 2, a.octet 1, a.octet 0].length ≤ 3 ∧ a.octet 3 < Nat.pow 256 1
      ∧ [a.octet 2, a.octet 1, a.octet 0].all (· < 256) = true :=
    ⟨Nat.le_refl 3, last, bytes⟩
  change (if [a.octet 2, a.octet 1, a.octet 0].length ≤ 3 ∧ a.octet 3 < Nat.pow 256 1
      ∧ [a.octet 2, a.octet 1, a.octet 0].all (· < 256) = true then _ else _) = _
  rw [if_pos condition]
  change some (Ipv4.mk (.ofNat ((((0 * 256 + a.octet 0) * 256 + a.octet 1) * 256 + a.octet 2) * 256
    + a.octet 3))) = _
  rw [value, UInt32.ofNat_toNat]

/-- The decimal numbers of bytes are read as decimal numbers. -/
theorem read_decimal : ∀ n < 256, number? (decimal n) = some n ∧ byte? (decimal n) = some n := by
  decide +kernel

theorem mapM_labels {read : List Char → Option Nat}
    (each : ∀ n < 256, read (decimal n) = some n) : a.labels.mapM read = some a.octets := by
  have byte : ∀ n ∈ a.octets, (read ∘ decimal) n = some n := fun n mem =>
    each n (a.lt_of_mem_octets mem)
  rw [labels, List.mapM_map]
  exact (List.mapM_eq_some_map byte).trans (congrArg some (List.map_id' _))

theorem parts_text : parts a.text = a.labels := by
  have last : a.labels.getLast? ≠ some [] := by
    have shown : a.labels.getLast? = some (decimal (a.octet 3)) := rfl
    rw [shown]
    exact fun empty => decimal_ne_nil _ (Option.some.inj empty)
  rw [parts, splitOnP_text]
  exact if_neg fun h => last h.2

/-- The last part is digits. -/
theorem endsInNumber_text : endsInNumber a.text = true := by
  have last : a.labels.getLast? = some (decimal (a.octet 3)) := rfl
  obtain ⟨c, rest, eq⟩ := List.exists_cons_of_ne_nil (decimal_ne_nil (a.octet 3))
  have digits : ((c :: rest).all fun c => '0' ≤ c && c ≤ '9') = true := by
    refine List.all_eq_true.2 fun d mem => ?_
    exact Text.of_isDigit (p := fun d => ('0' ≤ d && d ≤ '9') = true) (by decide)
      (isDigit_decimal (a.octet 3) d (eq ▸ mem))
  simp only [endsInNumber, parts_text, last, eq, digits, Bool.true_or]

theorem parse?_text : parse? a.text = some a := by
  rw [parse?, parts_text, a.mapM_labels fun n small => (read_decimal n small).1]
  exact a.ofNumbers?_octets

theorem octets?_text : octets? a.text = some a := by
  rw [octets?, splitOnP_text, a.mapM_labels fun n small => (read_decimal n small).2]
  exact a.ofNumbers?_octets

end Ipv4

/-! ### Hosts -/

/-- An IPv4 address in its own form is read back where any host may stand. -/
theorem Host.parse_ipv4 (a : Ipv4) : parse a.text = .ok (.ipv4 a) := by
  have decoded : Percent.textOf? a.text = some (String.ofList a.text) := by
    refine Percent.textOf?_of_ascii fun c mem => ?_
    rcases a.isDigit_or_dot c mem with digit | rfl
    · exact Text.of_isDigit (p := fun c => c.toNat < 0x80 ∧ c ≠ '%') (by decide) digit
    · decide
  have name : Domain.ofText? (String.ofList a.text) = some a.text := by
    rw [a.text_eq]
    exact Domain.ofText?_digits (List.cons_ne_nil _ _) a.isDigit_labels
  have number : ofName a.text = .ok (.ipv4 a) := by
    have notEmpty : a.text.isEmpty = false := List.isEmpty_eq_false_iff.2 a.text_ne_nil
    simp only [ofName, notEmpty, a.endsInNumber_text, a.parse?_text, Bool.false_eq_true,
      ↓reduceIte]
  unfold parse
  split
  next rest bracket =>
    have opening : '[' ∈ a.text := bracket ▸ List.mem_cons_self
    exact absurd (a.isDigit_or_dot '[' opening) (by decide)
  next =>
    rw [Percent.textOf?] at decoded
    simp only [decoded, name, number]

end WebDriverClient.Url
