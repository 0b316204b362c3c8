/-
**What a name is mapped to stands for itself.**

No character that takes the place of another is replaced, dropped or refused itself, no part of a
kept character is, and a character that is composed of kept ones is kept.  The tables tell this at
once, when their code points are compared as sets.  So the labels of a name that has been mapped
are mapped to themselves.

Main definitions:

* `Domain.changed` — the set of the characters that are refused, dropped or replaced;
* `Domain.IsKept` — the others.

Main results:

* `Domain.mapping_check` — what the tables say;
* `Domain.mapChar?_of_isKept` — a kept character stands for itself;
* `Domain.isKept_of_mapped?` — **only kept characters come of the mapping**;
* `Domain.mapped?_of_mem_splitOnP` — **a label of a mapped name is mapped to itself**.
-/

import WebDriverClient.Proofs.Text.Normal
import WebDriverClient.Proofs.Url.Characters

set_option autoImplicit false

namespace WebDriverClient.Url.Domain

/-! ### Sets of characters -/

/-- The set of a run of code points. -/
def runBits (start count step : Nat) : Nat :=
  if step < 2 then Table.blockBits start count
  else Table.bitsOf (((List.range count).filter (· % step = 0)).map (start + ·))

/-- The set of the characters of a run. -/
def sourceBits : List Nat → Nat
  | [c, _] => Table.rangeBits c c
  | [first, last, step, _] => runBits first (last + 1 - first) step
  | _ => 0

/-- The set of the characters that a run replaces others by. -/
def targetBits : List Nat → Nat
  | [_, target] => Table.rangeBits target target
  | [first, last, step, target] =>
    if step = 0 then Table.rangeBits target target else runBits target (last + 1 - first) step
  | _ => 0

/-- The set of the characters that some tables refuse, drop or replace. -/
def changedBits (refused dropped sequences runs : List (List Nat)) : Nat :=
  Table.unionBits Table.entryBits refused ||| Table.unionBits Table.entryBits dropped
    ||| Table.bitsOf (sequences.map (·.headD 0)) ||| Table.unionBits sourceBits runs

/-- The set of the characters that take the place of others. -/
def replacingBits (sequences runs : List (List Nat)) : Nat :=
  Table.unionBits (fun entry => Table.bitsOf entry.tail) sequences
    ||| Table.unionBits targetBits runs

/-! ### What the tables say -/

/-- A composed character belongs to a set if one of its parts does. -/
def isCompositional (bits : Nat) : List Nat → Bool
  | [whole, first, second] =>
    bits.testBit whole == (bits.testBit first || bits.testBit second)
  | _ => false

/-- What is to be checked of the sets and the compositions. -/
def agrees (changed replacing : Nat) (compositions : List (List Nat)) : Bool :=
  changed % 2 ^ 0x80 == Table.rangeBits 0x41 0x5A
    && replacing &&& changed == 0
    && Table.rangeBits 0xAC00 0xD7A3 &&& changed == 0
    && (Table.rangeBits 0x1100 0x1112 ||| Table.rangeBits 0x1161 0x1175
      ||| Table.rangeBits 0x11A8 0x11C2) &&& changed == 0
    && compositions.all (isCompositional changed)

/-- How the sets and the compositions agree. -/
structure Agrees (changed replacing : Nat) (compositions : List (List Nat)) : Prop where
  /-- Of ASCII the upper-case letters are changed and nothing else is. -/
  ascii : ∀ n < 0x80, changed.testBit n = decide (0x41 ≤ n ∧ n ≤ 0x5A)
  /-- Characters that take the place of others are kept. -/
  replacing : ∀ n, replacing.testBit n = true → changed.testBit n = false
  /-- Korean syllables are kept. -/
  syllable : ∀ n, Text.isSyllable n = true → changed.testBit n = false
  /-- The letters of syllables are kept. -/
  jamo : ∀ n, Text.IsJamo n → changed.testBit n = false
  /-- A composed character is kept if its parts are. -/
  composition : ∀ w a b, [w, a, b] ∈ compositions →
    changed.testBit w = (changed.testBit a || changed.testBit b)

theorem Agrees.of_agrees {changed replacing : Nat} {compositions : List (List Nat)}
    (h : agrees changed replacing compositions = true) :
    Agrees changed replacing compositions := by
  simp only [agrees, Bool.and_eq_true, beq_iff_eq, List.all_eq_true] at h
  obtain ⟨⟨⟨⟨ascii, disjoint⟩, syllables⟩, jamo⟩, compositional⟩ := h
  refine ⟨fun n low => ?_, fun n => Table.not_testBit_of_land disjoint, fun n syllable => ?_,
    fun n letter => ?_, fun w a b mem => ?_⟩
  · have here := congrArg (Nat.testBit · n) ascii
    simpa only [Nat.testBit_mod_two_pow, low, decide_true, Bool.true_and,
      Table.testBit_rangeBits] using here
  · refine Table.not_testBit_of_land syllables ?_
    rw [Table.testBit_rangeBits, decide_eq_true_eq]
    exact Text.isSyllable_iff.1 syllable
  · refine Table.not_testBit_of_land jamo ?_
    unfold Text.IsJamo at letter
    simpa only [Nat.testBit_lor, Table.testBit_rangeBits, Bool.or_eq_true, decide_eq_true_eq,
      or_assoc] using letter
  · exact beq_iff_eq.1 (compositional _ mem)

/-- The tables may be read entry by entry. -/
theorem agrees_entries {a b c d e : List Char}
    (h : agrees (changedBits (Table.entriesFrom [] none a) (Table.entriesFrom [] none b)
        (Table.entriesFrom [] none c) (Table.entriesFrom [] none d))
      (replacingBits (Table.entriesFrom [] none c) (Table.entriesFrom [] none d))
      (Table.entriesFrom [] none e) = true) :
    agrees (changedBits (Table.entries (String.ofList a)) (Table.entries (String.ofList b))
        (Table.entries (String.ofList c)) (Table.entries (String.ofList d)))
      (replacingBits (Table.entries (String.ofList c)) (Table.entries (String.ofList d)))
      (Table.entries (String.ofList e)) = true := by
  simpa only [Table.entries_ofList] using h

/-- The set of the characters that are refused, dropped or replaced. -/
def changed : Nat := changedBits refused dropped mappedSequences mappedRuns

/-- The set of the characters that take the place of others. -/
def replacing : Nat := replacingBits mappedSequences mappedRuns

-- The characters of a table are a list as long as the table is.
set_option maxRecDepth 1000000 in
theorem mapping_check : agrees changed replacing Text.compositions = true := by
  unfold changed replacing refused dropped mappedSequences mappedRuns Text.compositions
  with_reducible refine agrees_entries ?_
  decide +kernel

theorem mapping_agrees : Agrees changed replacing Text.compositions := .of_agrees mapping_check

/-! ### Runs -/

theorem testBit_runBits (start count step n : Nat) :
    (runBits start count step).testBit n = true ↔
      ∃ k < count, (step < 2 ∨ k % step = 0) ∧ n = start + k := by
  rw [runBits]
  split
  next small =>
    rw [Table.testBit_blockBits, decide_eq_true_eq]
    constructor
    · rintro ⟨first, last⟩
      exact ⟨n - start, by omega, .inl small, by omega⟩
    · rintro ⟨k, less, -, rfl⟩
      omega
  next large =>
    rw [Table.testBit_bitsOf, List.mem_map]
    constructor
    · rintro ⟨k, mem, rfl⟩
      obtain ⟨less, multiple⟩ := List.mem_filter.1 mem
      exact ⟨k, List.mem_range.1 less, .inr (of_decide_eq_true multiple), rfl⟩
    · rintro ⟨k, less, multiple, rfl⟩
      have multiple := multiple.resolve_left large
      exact ⟨k, List.mem_filter.2 ⟨List.mem_range.2 less, decide_eq_true multiple⟩, rfl⟩

/-- A run replaces the characters of its set. -/
theorem testBit_sourceBits (n : Nat) (entry : List Nat) :
    (sourceBits entry).testBit n = (replaceIn? n entry).isSome := by
  rw [Bool.eq_iff_iff]
  match entry with
  | [] | [_] | [_, _, _] | _ :: _ :: _ :: _ :: _ :: _ => simp [sourceBits, replaceIn?]
  | [c, target] =>
      rw [sourceBits, Table.testBit_rangeBits, decide_eq_true_eq, replaceIn?]
      split
      next same => simp [same]
      next other =>
        simp only [Option.isSome_none, Bool.false_eq_true, iff_false]
        omega
  | [first, last, step, target] =>
      rw [sourceBits, testBit_runBits, replaceIn?]
      split
      next outside =>
        rw [Bool.or_eq_true, decide_eq_true_eq, decide_eq_true_eq] at outside
        simp only [Option.isSome_none, Bool.false_eq_true, iff_false, not_exists]
        omega
      next within =>
        rw [Bool.or_eq_true, decide_eq_true_eq, decide_eq_true_eq] at within
        split
        next constant =>
          simp only [Option.isSome_some, iff_true]
          exact ⟨n - first, by omega, .inl (by omega), by omega⟩
        next =>
          split
          next multiple =>
            simp only [Option.isSome_some, iff_true]
            exact ⟨n - first, by omega, .inr multiple, by omega⟩
          next between =>
            simp only [Option.isSome_none, Bool.false_eq_true, iff_false]
            rintro ⟨k, less, multiple, rfl⟩
            rw [Nat.add_sub_cancel_left] at between
            have one : step = 1 := by omega
            exact between (one ▸ Nat.mod_one k)

/-- What a run replaces a character by belongs to the set of the run. -/
theorem testBit_targetBits {n m : Nat} {entry : List Nat} (h : replaceIn? n entry = some m) :
    (targetBits entry).testBit m = true := by
  match entry with
  | [] | [_] | [_, _, _] | _ :: _ :: _ :: _ :: _ :: _ => simp [replaceIn?] at h
  | [c, target] =>
      rw [replaceIn?, Option.ite_none_right_eq_some] at h
      obtain rfl := Option.some.inj h.2
      simp [targetBits, Table.testBit_rangeBits]
  | [first, last, step, target] =>
      rw [replaceIn?, Option.ite_none_left_eq_some] at h
      obtain ⟨within, h⟩ := h
      rw [Bool.or_eq_true, decide_eq_true_eq, decide_eq_true_eq] at within
      rw [targetBits]
      split at h
      next constant =>
        obtain rfl := Option.some.inj h
        simp [constant, Table.testBit_rangeBits]
      next moving =>
        rw [Option.ite_none_right_eq_some] at h
        obtain ⟨multiple, same⟩ := h
        rw [if_neg moving, testBit_runBits]
        exact ⟨n - first, by omega, .inr multiple, (Option.some.inj same).symm⟩

/-! ### Kept characters -/

/-- The character is neither refused nor dropped nor replaced. -/
def IsKept (c : Char) : Prop := changed.testBit c.toNat = false

/-- What is changed is said by one of the tables. -/
theorem testBit_changed (n : Nat) :
    changed.testBit n = (Table.contains refused n || Table.contains dropped n
      || (mappedSequences.map (·.headD 0)).contains n
      || mappedRuns.any fun entry => (replaceIn? n entry).isSome) := by
  have runs : (Table.unionBits sourceBits mappedRuns).testBit n
      = mappedRuns.any fun entry => (replaceIn? n entry).isSome := by
    rw [Table.testBit_unionBits]
    exact congrArg mappedRuns.any (funext (testBit_sourceBits n))
  have sequences : (Table.bitsOf (mappedSequences.map (·.headD 0))).testBit n
      = (mappedSequences.map (·.headD 0)).contains n := by
    rw [Bool.eq_iff_iff, Table.testBit_bitsOf, List.contains_iff_mem]
  rw [changed, changedBits, Nat.testBit_lor, Nat.testBit_lor, Nat.testBit_lor, runs, sequences,
    Table.testBit_unionBits_entryBits, Table.testBit_unionBits_entryBits]

/-- A character is kept if no table has it. -/
theorem isKept_iff {c : Char} (other : ¬ c.toNat < 0x80) :
    IsKept c ↔ ¬ Table.contains refused c.toNat = true ∧ ¬ Table.contains dropped c.toNat = true ∧
      mappedSequences.find? (·.head? = some c.toNat) = none ∧
      mappedRuns.findSome? (replaceIn? c.toNat) = none := by
  have sequences : (mappedSequences.map (·.headD 0)).contains c.toNat = false ↔
      mappedSequences.find? (·.head? = some c.toNat) = none := by
    rw [Bool.eq_false_iff, Ne, List.contains_iff_mem, List.mem_map, List.find?_eq_none]
    refine ⟨fun h entry mem head => ?_, fun h ⟨entry, mem, head⟩ => ?_⟩
    · rw [decide_eq_true_eq] at head
      exact h ⟨entry, mem, by rw [List.headD_eq_head?_getD, head, Option.getD_some]⟩
    · cases entry with
      | nil => exact other (head ▸ by decide)
      | cons first rest => exact h _ mem (decide_eq_true (congrArg some head))
  have runs : (mappedRuns.any fun entry => (replaceIn? c.toNat entry).isSome) = false ↔
      mappedRuns.findSome? (replaceIn? c.toNat) = none := by
    simp only [List.any_eq_false, List.findSome?_eq_none_iff, Bool.not_eq_true,
      Option.isSome_eq_false_iff, Option.isNone_iff_eq_none]
  rw [IsKept, testBit_changed, Bool.or_eq_false_iff, Bool.or_eq_false_iff, Bool.or_eq_false_iff,
    sequences, runs, Bool.not_eq_true, Bool.not_eq_true, and_assoc, and_assoc]

/-- ASCII characters are kept, unless they are upper-case letters. -/
theorem isKept_of_isAscii {c : Char} (ascii : c.toNat < 0x80) :
    IsKept c ↔ ¬ (0x41 ≤ c.toNat ∧ c.toNat ≤ 0x5A) := by
  rw [IsKept, mapping_agrees.ascii _ ascii, decide_eq_false_iff_not]

/-- A code point that is no character stands for one that is kept. -/
theorem isKept_ofNat {n : Nat} (h : changed.testBit n = false) : IsKept (Char.ofNat n) := by
  by_cases valid : n.isValidChar
  · rwa [IsKept, Text.toNat_ofNat valid]
  · have zero : Char.ofNat n = Char.ofNat 0 := by
      rw [Char.ofNat, dif_neg valid]
      rfl
    rw [zero, isKept_of_isAscii (by decide)]
    decide

/-- Only kept characters take the place of others. -/
theorem isKept_of_mapChar? {c : Char} {out : List Char} (h : mapChar? c = some out) :
    ∀ d ∈ out, IsKept d := by
  rw [mapChar?] at h
  split at h
  next ascii =>
    obtain rfl := Option.some.inj h
    intro d mem
    obtain rfl := List.mem_singleton.1 mem
    have lower : c.toLower.toNat < 0x80 ∧ ¬ (0x41 ≤ c.toLower.toNat ∧ c.toLower.toNat ≤ 0x5A) :=
      of_ascii (p := fun c => c.toLower.toNat < 0x80
        ∧ ¬ (0x41 ≤ c.toLower.toNat ∧ c.toLower.toNat ≤ 0x5A)) (by decide) ascii
    exact (isKept_of_isAscii lower.1).2 lower.2
  next other =>
    rw [Option.ite_none_left_eq_some] at h
    obtain ⟨allowed, h⟩ := h
    split at h
    next =>
      obtain rfl := Option.some.inj h
      exact fun d mem => (List.not_mem_nil mem).elim
    next standing =>
      split at h
      next entry found =>
        -- The character is replaced by those of the rest of an entry.
        obtain rfl := Option.some.inj h
        intro d mem
        obtain ⟨m, part, rfl⟩ := List.mem_map.1 mem
        refine isKept_ofNat (mapping_agrees.replacing m ?_)
        rw [replacing, replacingBits, Nat.testBit_lor, Bool.or_eq_true, Table.testBit_unionBits,
          List.any_eq_true]
        rw [List.drop_one] at part
        exact .inl ⟨entry, List.mem_of_find?_eq_some found, (Table.testBit_bitsOf _ _).2 part⟩
      next unlisted =>
        cases found : mappedRuns.findSome? (replaceIn? c.toNat) with
        | some m =>
            -- The character is replaced by that of a run.
            rw [found] at h
            obtain rfl := Option.some.inj h
            obtain ⟨entry, mem, here⟩ := List.exists_of_findSome?_eq_some found
            rw [List.forall_mem_singleton]
            refine isKept_ofNat (mapping_agrees.replacing m ?_)
            rw [replacing, replacingBits, Nat.testBit_lor, Bool.or_eq_true,
              Table.testBit_unionBits targetBits, List.any_eq_true]
            exact .inr ⟨entry, mem, testBit_targetBits here⟩
        | none =>
            -- No table has the character.
            rw [found] at h
            obtain rfl := Option.some.inj h
            rw [List.forall_mem_singleton]
            exact (isKept_iff other).2 ⟨allowed, standing, unlisted, found⟩

/-- A kept character stands for itself. -/
theorem mapChar?_of_isKept {c : Char} (h : IsKept c) : mapChar? c = some [c] := by
  rw [mapChar?]
  split
  next ascii =>
    have same : c.toLower = c :=
      of_ascii (p := fun c => ¬ (0x41 ≤ c.toNat ∧ c.toNat ≤ 0x5A) → c.toLower = c) (by decide)
        ascii ((isKept_of_isAscii ascii).1 h)
    rw [same]
  next other =>
    obtain ⟨allowed, standing, unlisted, unreplaced⟩ := (isKept_iff other).1 h
    rw [if_neg allowed, if_neg standing, unlisted, unreplaced]
    rfl

/-! ### Mapped texts -/

theorem isKept_of_composed? {a b c : Char} (h : Text.composed? a b = some c) (ha : IsKept a)
    (hb : IsKept b) : IsKept c := by
  rcases Text.exists_composes_of_composed? h with ⟨n, syllable, rfl⟩ | ⟨w, composes, rfl⟩
  · have syllable := (Text.jamo_of_syllable? syllable).1
    have range := Text.isSyllable_iff.1 syllable
    rw [IsKept, Text.toNat_ofNat (.inl (by omega))]
    exact mapping_agrees.syllable n syllable
  · rw [IsKept, Text.toNat_ofNat composes.valid.1, mapping_agrees.composition _ _ _ composes.mem,
      ha, hb]
    rfl

/-- The parts of kept characters are kept. -/
theorem testBit_changed_of_mem_parts {depth n : Nat} (h : changed.testBit n = false) :
    ∀ m ∈ Text.parts depth n, changed.testBit m = false := by
  induction depth generalizing n with
  | zero =>
      intro m mem
      exact List.mem_singleton.1 mem ▸ h
  | succ depth ih =>
      cases syllable : Text.isSyllable n with
      | true =>
          intro m mem
          rw [Text.parts_syllable syllable] at mem
          exact mapping_agrees.jamo m (Text.isJamo_of_mem_syllableParts syllable mem)
      | false =>
          cases composed : (Text.nestedBits Text.compositions 0).testBit n with
          | false =>
              intro m mem
              rw [Text.IsSimple.parts ⟨syllable, composed⟩] at mem
              exact List.mem_singleton.1 mem ▸ h
          | true =>
              obtain ⟨a, b, composes⟩ := Text.composes_of_composed composed
              rw [mapping_agrees.composition _ _ _ composes.mem, Bool.or_eq_false_iff] at h
              rw [composes.parts, List.forall_mem_append]
              exact ⟨ih h.1, ih h.2⟩

theorem isKept_of_mem_decomposed {c d : Char} (h : IsKept c) (mem : d ∈ Text.decomposed c) :
    IsKept d := by
  obtain ⟨m, part, rfl⟩ := List.mem_map.1 mem
  exact isKept_ofNat (testBit_changed_of_mem_parts h m part)

/-- Only kept characters come of the mapping of a text. -/
theorem isKept_of_mapped? {s out : List Char} (h : mapped? s = some out) : ∀ c ∈ out, IsKept c := by
  obtain ⟨parts, mapped, rfl⟩ := Option.map_eq_some_iff.1 h
  refine Text.forall_mem_normalize (fun _ _ _ => isKept_of_composed?)
    (fun _ kept _ => isKept_of_mem_decomposed kept) fun c mem => ?_
  obtain ⟨part, memPart, mem⟩ := List.mem_flatten.1 mem
  obtain ⟨d, -, here⟩ := List.exists_of_mem_mapM mapped part memPart
  exact isKept_of_mapChar? here c mem

/-- A text of kept characters is mapped to its normal form. -/
theorem mapped?_of_isKept {s : List Char} (h : ∀ c ∈ s, IsKept c) :
    mapped? s = some (Text.normalize s) := by
  have each : s.mapM mapChar? = some (s.map ([·])) :=
    List.mapM_eq_some_map fun c mem => mapChar?_of_isKept (h c mem)
  rw [mapped?, each, Option.map_some, ← List.flatMap_def, List.flatMap_singleton']

/-- What stands between the periods of a mapped text is mapped to itself. -/
theorem mapped?_of_mem_splitOnP {s out piece : List Char} (h : mapped? s = some out)
    (mem : piece ∈ out.splitOnP (· = '.')) : mapped? piece = some piece := by
  have kept : ∀ c ∈ piece, IsKept c := fun c inside =>
    isKept_of_mapped? h c ((Text.infix_of_mem_splitOnP mem).subset inside)
  obtain ⟨parts, -, rfl⟩ := Option.map_eq_some_iff.1 h
  rw [mapped?_of_isKept kept, Text.normalize_of_mem_splitOnP mem]

end WebDriverClient.Url.Domain
