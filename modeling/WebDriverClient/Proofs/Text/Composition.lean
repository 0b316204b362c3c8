/-
**Compositions are undone by decompositions.**

A character of the table is composed of two others, of which the first may be composed itself; the
table tells that this goes no deeper than the decomposition does.  So a composed character is
decomposed into what its two parts are decomposed into, and what comes of a decomposition has no
parts.  Korean syllables are composed by arithmetic and have the same properties.

Main definitions:

* `Text.IsSimple` — the code points without parts;
* `Text.decomposed` — what a character is decomposed into.

Main results:

* `Text.compositions_check` — what the table says;
* `Text.decomposed_of_composed?` — **a composed character is decomposed into what its parts are**;
* `Text.isSimple_of_mem_decomposed` — what comes of a decomposition has no parts.
-/

import Mathlib.Data.List.Chain
import Mathlib.Data.List.Nodup
import WebDriverClient.Proofs.Text.Tables
import WebDriverClient.Text.Normal

set_option autoImplicit false

namespace WebDriverClient.Text

/-! ### What the table says -/

/-- The entry composes a character, which has two parts.  No Korean syllable is among them, the
first is no period and the second is a mark or another character that comes after the Latin ones. -/
def isComposition : List Nat → Bool
  | [whole, first, second] =>
    decide whole.isValidChar && decide first.isValidChar && decide second.isValidChar
      && decide (0xC0 ≤ whole) && decide (0x300 ≤ second) && decide (first ≠ 0x2E)
      && !isSyllable whole && !isSyllable first && !isSyllable second
      && !decide (0x1100 ≤ whole ∧ whole ≤ 0x11C2)
  | _ => false

/-- The set of the characters that are composed, and whose first parts are so deep. -/
def nestedBits (table : List (List Nat)) : Nat → Nat
  | 0 => Table.bitsOf (table.map (·.headD 0))
  | depth + 1 =>
    Table.bitsOf ((table.filter fun entry => (nestedBits table depth).testBit (entry.getD 1 0)).map
      (·.headD 0))

/-- The numbers ascend. -/
def ascends : List Nat → Bool
  | a :: b :: rest => decide (a < b) && ascends (b :: rest)
  | _ => true

-- The characters of a table are a list as long as the table is.
set_option maxRecDepth 1000000 in
/-- Each composed character is listed once, no second part is composed, and compositions are nested
no deeper than decompositions go. -/
theorem compositions_check :
    (compositions.all isComposition
      && compositions.all (fun entry => !(nestedBits compositions 0).testBit (entry.getD 2 0))
      && ascends (compositions.map (·.headD 0))
      && nestedBits compositions maxNesting == 0) = true := by
  unfold compositions
  with_reducible rw [Table.entries_ofList]
  decide +kernel

theorem pairwise_of_ascends {ns : List Nat} (h : ascends ns = true) : ns.Pairwise (· < ·) := by
  rw [← List.isChain_iff_pairwise]
  induction ns with
  | nil => exact .nil
  | cons a ns ih =>
      cases ns with
      | nil => exact .singleton a
      | cons b rest =>
          obtain ⟨less, later⟩ := Bool.and_eq_true_iff.1 h
          exact .cons_cons (of_decide_eq_true less) (ih later)

/-- What is known of an entry of the table. -/
structure Composes (whole first second : Nat) : Prop where
  mem : [whole, first, second] ∈ compositions
  valid : whole.isValidChar ∧ first.isValidChar ∧ second.isValidChar
  /-- The composed character is not a basic one. -/
  whole_le : 0xC0 ≤ whole
  /-- Neither is the second part. -/
  second_le : 0x300 ≤ second
  /-- The first part is no period. -/
  first_ne : first ≠ 0x2E
  /-- None is a Korean syllable. -/
  noSyllable : isSyllable whole = false ∧ isSyllable first = false ∧ isSyllable second = false
  /-- The composed character is not a part of one. -/
  noJamo : ¬ (0x1100 ≤ whole ∧ whole ≤ 0x11C2)
  /-- The second part is not composed. -/
  noNesting : (nestedBits compositions 0).testBit second = false

theorem exists_composes {entry : List Nat} (h : entry ∈ compositions) :
    ∃ whole first second, entry = [whole, first, second] ∧ Composes whole first second := by
  have check := compositions_check
  simp only [Bool.and_eq_true, List.all_eq_true] at check
  obtain ⟨⟨⟨form, second⟩, -⟩, -⟩ := check
  have here := form entry h
  unfold isComposition at here
  split at here
  next w a b =>
    simp only [Bool.and_eq_true, decide_eq_true_eq, Bool.not_eq_true', decide_eq_false_iff_not]
      at here
    obtain ⟨⟨⟨⟨⟨⟨⟨⟨⟨hw, ha⟩, hb⟩, large⟩, mark⟩, dot⟩, sw⟩, sa⟩, sb⟩, jamo⟩ := here
    have plain := second _ h
    rw [Bool.not_eq_true'] at plain
    exact ⟨w, a, b, rfl, h, ⟨hw, ha, hb⟩, large, mark, dot, ⟨sw, sa, sb⟩, jamo, plain⟩
  next => cases here

/-- A composed character is listed once. -/
theorem eq_of_headD {e e' : List Nat} (h : e ∈ compositions) (h' : e' ∈ compositions)
    (same : e.headD 0 = e'.headD 0) : e = e' := by
  have check := compositions_check
  simp only [Bool.and_eq_true] at check
  have once := (pairwise_of_ascends check.1.2).imp Nat.ne_of_lt
  exact List.inj_on_of_nodup_map once h h' same

/-! ### Parts -/

/-- The code point has no parts. -/
structure IsSimple (n : Nat) : Prop where
  noSyllable : isSyllable n = false
  notComposed : (nestedBits compositions 0).testBit n = false

theorem find?_of_notComposed {n : Nat} (h : (nestedBits compositions 0).testBit n = false) :
    compositions.find? (·.head? = some n) = none := by
  rw [List.find?_eq_none]
  intro entry mem head
  obtain ⟨w, a, b, rfl, -⟩ := exists_composes mem
  obtain rfl : w = n := by simpa using head
  refine Bool.eq_false_iff.1 h ((Table.testBit_bitsOf _ _).2 ?_)
  exact List.mem_map.2 ⟨_, mem, rfl⟩

theorem IsSimple.parts {n : Nat} (h : IsSimple n) (depth : Nat) : parts depth n = [n] := by
  cases depth with
  | zero => rfl
  | succ depth =>
      rw [Text.parts, h.noSyllable, if_neg Bool.false_ne_true, find?_of_notComposed h.notComposed]
      rfl

theorem Composes.find? {w a b : Nat} (h : Composes w a b) :
    compositions.find? (·.head? = some w) = some [w, a, b] := by
  cases found : compositions.find? (·.head? = some w) with
  | none =>
      rw [List.find?_eq_none] at found
      exact absurd (by simp) (found _ h.mem)
  | some entry =>
      have mem := List.mem_of_find?_eq_some found
      obtain ⟨w', a', b', rfl, -⟩ := exists_composes mem
      have head : w' = w := by simpa using List.find?_some found
      exact congrArg some (eq_of_headD mem h.mem head)

/-- The parts of a composed character are those of its two parts. -/
theorem Composes.parts {w a b : Nat} (h : Composes w a b) (depth : Nat) :
    parts (depth + 1) w = parts depth a ++ parts depth b := by
  rw [Text.parts, h.noSyllable.1, if_neg Bool.false_ne_true, h.find?]
  rfl

theorem composes_of_composed {n : Nat} (h : (nestedBits compositions 0).testBit n = true) :
    ∃ a b, Composes n a b := by
  obtain ⟨entry, mem, head⟩ := List.mem_map.1 ((Table.testBit_bitsOf _ _).1 h)
  obtain ⟨w, a, b, rfl, composes⟩ := exists_composes mem
  obtain rfl : w = n := head
  exact ⟨a, b, composes⟩

/-- The first part of a composed character is nested less deep. -/
theorem Composes.nestedBits {w a b : Nat} (h : Composes w a b) {depth : Nat}
    (shallow : (nestedBits compositions (depth + 1)).testBit w = false) :
    (Text.nestedBits compositions depth).testBit a = false := by
  rw [Bool.eq_false_iff] at shallow ⊢
  intro deep
  refine shallow ((Table.testBit_bitsOf _ _).2 (List.mem_map.2 ⟨[w, a, b], ?_, rfl⟩))
  exact List.mem_filter.2 ⟨h.mem, deep⟩

/-- A decomposition that goes deep enough need not go deeper. -/
theorem parts_succ {depth n : Nat} (noSyllable : isSyllable n = false)
    (shallow : (nestedBits compositions depth).testBit n = false) :
    parts (depth + 1) n = parts depth n := by
  induction depth generalizing n with
  | zero => exact IsSimple.parts ⟨noSyllable, shallow⟩ 1
  | succ depth ih =>
      cases composed : (nestedBits compositions 0).testBit n with
      | false => rw [IsSimple.parts ⟨noSyllable, composed⟩, IsSimple.parts ⟨noSyllable, composed⟩]
      | true =>
          obtain ⟨a, b, h⟩ := composes_of_composed composed
          have second : IsSimple b := ⟨h.noSyllable.2.2, h.noNesting⟩
          rw [h.parts, h.parts, ih h.noSyllable.2.1 (h.nestedBits shallow), second.parts,
            second.parts]

/-- The parts of a code point that is not nested deeper have no parts, and they are characters. -/
theorem isSimple_of_mem_parts {depth n : Nat} (noSyllable : isSyllable n = false)
    (valid : n.isValidChar) (shallow : (nestedBits compositions depth).testBit n = false) :
    ∀ m ∈ parts depth n, IsSimple m ∧ m.isValidChar := by
  induction depth generalizing n with
  | zero =>
      intro m mem
      obtain rfl := List.mem_singleton.1 mem
      exact ⟨⟨noSyllable, shallow⟩, valid⟩
  | succ depth ih =>
      cases composed : (nestedBits compositions 0).testBit n with
      | false =>
          have simple : IsSimple n := ⟨noSyllable, composed⟩
          intro m mem
          rw [simple.parts, List.mem_singleton] at mem
          exact mem ▸ ⟨simple, valid⟩
      | true =>
          obtain ⟨a, b, h⟩ := composes_of_composed composed
          have second : IsSimple b := ⟨h.noSyllable.2.2, h.noNesting⟩
          rw [h.parts, second.parts]
          refine List.forall_mem_append.2 ⟨?_, ?_⟩
          · exact ih h.noSyllable.2.1 h.valid.2.1 (h.nestedBits shallow)
          · intro m mem
            exact List.mem_singleton.1 mem ▸ ⟨second, h.valid.2.2⟩

/-! ### Korean syllables -/

theorem isSyllable_iff {n : Nat} : isSyllable n = true ↔ 0xAC00 ≤ n ∧ n ≤ 0xD7A3 := by
  rw [isSyllable, Bool.and_eq_true, decide_eq_true_eq, decide_eq_true_eq]

theorem isSyllable_eq_false_iff {n : Nat} : isSyllable n = false ↔ n < 0xAC00 ∨ 0xD7A3 < n := by
  rw [Bool.eq_false_iff, Ne, isSyllable_iff]
  omega

/-- The parts of syllables have no parts. -/
theorem isSimple_jamo {n : Nat} (low : 0x1100 ≤ n) (high : n ≤ 0x11C2) : IsSimple n := by
  refine ⟨isSyllable_eq_false_iff.2 (by omega), Bool.eq_false_iff.2 fun composed => ?_⟩
  obtain ⟨a, b, h⟩ := composes_of_composed composed
  exact h.noJamo ⟨low, high⟩

/-- The code point is a letter that syllables are composed of. -/
def IsJamo (n : Nat) : Prop :=
  (0x1100 ≤ n ∧ n ≤ 0x1112) ∨ (0x1161 ≤ n ∧ n ≤ 0x1175) ∨ (0x11A8 ≤ n ∧ n ≤ 0x11C2)

theorem IsJamo.isSimple {n : Nat} (h : IsJamo n) : IsSimple n := by
  unfold IsJamo at h
  exact isSimple_jamo (by omega) (by omega)

theorem IsJamo.valid {n : Nat} (h : IsJamo n) : n.isValidChar := by
  unfold IsJamo at h
  exact .inl (by omega)

/-- The parts of a syllable are letters. -/
theorem isJamo_of_mem_syllableParts {n m : Nat} (h : isSyllable n = true)
    (mem : m ∈ syllableParts n) : IsJamo m := by
  have range := isSyllable_iff.1 h
  unfold IsJamo
  simp only [syllableParts] at mem
  split at mem
  · simp only [List.mem_cons, List.not_mem_nil, or_false] at mem
    omega
  · simp only [List.cons_append, List.nil_append, List.mem_cons, List.not_mem_nil, or_false] at mem
    omega

theorem parts_syllable {n : Nat} (h : isSyllable n = true) (depth : Nat) :
    parts (depth + 1) n = syllableParts n := by
  rw [parts, h, if_pos rfl]

/-- A syllable is composed with a letter. -/
theorem jamo_of_syllable? {a b n : Nat} (h : syllable? a b = some n) :
    isSyllable n = true ∧ 0x1161 ≤ b ∧ b ≤ 0x11C2 := by
  unfold syllable? at h
  rw [isSyllable_iff]
  split at h
  next two =>
    simp only [Bool.and_eq_true, decide_eq_true_eq] at two
    obtain rfl := Option.some.inj h
    omega
  next =>
    obtain ⟨three, same⟩ := Option.ite_none_right_eq_some.1 h
    simp only [Bool.and_eq_true, decide_eq_true_eq, isSyllable_iff] at three
    obtain rfl := Option.some.inj same
    omega

/-- A syllable has the parts of what it is composed of. -/
theorem parts_of_syllable? {a b n : Nat} (h : syllable? a b = some n) (depth : Nat) :
    parts (depth + 1) n = parts (depth + 1) a ++ parts (depth + 1) b := by
  obtain ⟨syllable, low, high⟩ := jamo_of_syllable? h
  rw [parts_syllable syllable, (isSimple_jamo (by omega) high).parts]
  unfold syllable? at h
  split at h
  next two =>
    -- A syllable of two letters.
    simp only [Bool.and_eq_true, decide_eq_true_eq] at two
    obtain rfl := Option.some.inj h
    rw [(isSimple_jamo (n := a) (by omega) (by omega)).parts, syllableParts, if_pos (by omega)]
    simp only [List.singleton_append, List.cons.injEq, and_true]
    omega
  next =>
    -- A syllable of two letters, and a third.
    obtain ⟨three, same⟩ := Option.ite_none_right_eq_some.1 h
    simp only [Bool.and_eq_true, decide_eq_true_eq] at three
    obtain ⟨⟨⟨first, open_⟩, above⟩, -⟩ := three
    have range := isSyllable_iff.1 first
    obtain rfl := Option.some.inj same
    rw [parts_syllable first, syllableParts, syllableParts, if_neg (by omega), if_pos open_]
    simp only [List.cons_append, List.nil_append, List.cons.injEq, and_true]
    omega

/-! ### Characters -/

/-- What a character is decomposed into. -/
def decomposed (c : Char) : List Char := (parts maxNesting c.toNat).map Char.ofNat

theorem toNat_ofNat {n : Nat} (h : n.isValidChar) : (Char.ofNat n).toNat = n := by
  rw [Char.ofNat, dif_pos h]
  rfl

theorem shallow (n : Nat) : (nestedBits compositions maxNesting).testBit n = false := by
  have check := compositions_check
  simp only [Bool.and_eq_true, beq_iff_eq] at check
  rw [check.2]
  exact Nat.zero_testBit n

theorem IsSimple.decomposed {c : Char} (h : IsSimple c.toNat) : decomposed c = [c] := by
  rw [Text.decomposed, h.parts, List.map_singleton, Char.ofNat_toNat]

/-- Basic characters have no parts. -/
theorem isSimple_of_lt {n : Nat} (h : n < 0xC0) : IsSimple n := by
  refine ⟨isSyllable_eq_false_iff.2 (by omega), Bool.eq_false_iff.2 fun composed => ?_⟩
  obtain ⟨a, b, composes⟩ := composes_of_composed composed
  exact absurd composes.whole_le (Nat.not_le_of_lt h)

/-- A text is decomposed character by character. -/
theorem decompose_eq (s : List Char) : decompose s = s.flatMap decomposed := by
  refine congrArg (s.flatMap ·) (funext fun c => ?_)
  split
  next basic => exact (isSimple_of_lt basic).decomposed.symm
  next => rfl

/-- The parts of a composed character are those of what it is composed of. -/
theorem Composes.parts_max {w a b : Nat} (h : Composes w a b) :
    Text.parts maxNesting w = Text.parts maxNesting a ++ Text.parts maxNesting b := by
  have first : Text.parts maxNesting a = Text.parts 3 a :=
    parts_succ h.noSyllable.2.1 (h.nestedBits (shallow w))
  have second : IsSimple b := ⟨h.noSyllable.2.2, h.noNesting⟩
  rw [first, second.parts, maxNesting, h.parts, second.parts]

/-- The two characters that one is composed of. -/
theorem exists_composes_of_composed? {a b c : Char} (h : composed? a b = some c) :
    (∃ n, syllable? a.toNat b.toNat = some n ∧ c = Char.ofNat n) ∨
      ∃ w, Composes w a.toNat b.toNat ∧ c = Char.ofNat w := by
  unfold composed? at h
  split at h
  next n syllable => exact .inl ⟨n, syllable, (Option.some.inj h).symm⟩
  next =>
    obtain ⟨w, found, rfl⟩ := Option.map_eq_some_iff.1 h
    obtain ⟨entry, mem, here⟩ := List.exists_of_findSome?_eq_some found
    obtain ⟨w', x, y, rfl, composes⟩ := exists_composes mem
    simp only [Bool.and_eq_true, decide_eq_true_eq, Option.ite_none_right_eq_some,
      Option.some.injEq] at here
    obtain ⟨⟨rfl, rfl⟩, rfl⟩ := here
    exact .inr ⟨_, composes, rfl⟩

/-- A composed character is decomposed into what its two parts are decomposed into. -/
theorem decomposed_of_composed? {a b c : Char} (h : composed? a b = some c) :
    decomposed c = decomposed a ++ decomposed b := by
  rcases exists_composes_of_composed? h with ⟨n, syllable, rfl⟩ | ⟨w, composes, rfl⟩
  · have bounds := isSyllable_iff.1 (jamo_of_syllable? syllable).1
    rw [decomposed, toNat_ofNat (.inl (by omega)), maxNesting, parts_of_syllable? syllable,
      List.map_append]
    rfl
  · rw [decomposed, toNat_ofNat composes.valid.1, composes.parts_max, List.map_append]
    rfl

/-- What a character is decomposed into has no parts. -/
theorem isSimple_of_mem_decomposed {c d : Char} (h : d ∈ decomposed c) : IsSimple d.toNat := by
  obtain ⟨m, mem, rfl⟩ := List.mem_map.1 h
  cases syllable : isSyllable c.toNat with
  | true =>
      rw [maxNesting, parts_syllable syllable] at mem
      have jamo := isJamo_of_mem_syllableParts syllable mem
      exact (toNat_ofNat jamo.valid).symm ▸ jamo.isSimple
  | false =>
      obtain ⟨simple, valid⟩ := isSimple_of_mem_parts syllable c.valid (shallow c.toNat) m mem
      rwa [toNat_ofNat valid]

end WebDriverClient.Text
