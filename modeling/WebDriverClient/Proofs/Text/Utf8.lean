/-
**The bytes of a text are read back.**

The scanner gives the characters of a text back when it is fed the bytes of the text, one character
after the other: after the bytes of a character it is ready for the next.  So the strict and the
lossy reading both undo the encoding, and no two texts have the same bytes.

Main results:

* `Utf8.scan_encodeChar` — the scanner reads one character;
* `Utf8.decode?_encode`, `Utf8.decodeLossy_encode` — **decoding undoes encoding**;
* `Utf8.encode_injective` — different texts have different bytes.
-/

import Mathlib.Tactic.Common
import Mathlib.Tactic.IntervalCases
import WebDriverClient.Text.Utf8

set_option autoImplicit false

namespace WebDriverClient.Utf8

/-! ### Encoding -/

@[simp] theorem encode_ofList_nil : encode (String.ofList []) = [] := by simp [encode]

theorem encode_ofList_cons (c : Char) (cs : List Char) :
    encode (String.ofList (c :: cs)) = String.utf8EncodeChar c ++ encode (String.ofList cs) := by
  simp [encode]

/-- A character of ASCII is one byte. -/
theorem encodeChar_ascii {c : Char} (h : c.toNat < 0x80) :
    String.utf8EncodeChar c = [UInt8.ofNat c.toNat] := by
  have small : c.val.toNat ≤ 127 := Nat.le_of_lt_succ h
  simp only [String.utf8EncodeChar, if_pos small]
  rfl

theorem encode_ascii {cs : List Char} (h : ∀ c ∈ cs, c.toNat < 0x80) :
    encode (String.ofList cs) = cs.map fun c => UInt8.ofNat c.toNat := by
  induction cs with
  | nil => exact encode_ofList_nil
  | cons c cs ih =>
      rw [encode_ofList_cons, encodeChar_ascii (h c List.mem_cons_self),
        ih fun d mem => h d (List.mem_cons_of_mem _ mem)]
      rfl

/-! ### The scanner -/

theorem scan_ascii {b : UInt8} (h : b < 0x80) (rest : List UInt8) :
    scan .ready (b :: rest) = some (Char.ofNat b.toNat) :: scan .ready rest := by
  simp [scan, step, start, h]

theorem scan_lead {b : UInt8} {s : State} (h : ¬ b < 0x80) (lead : afterLead b = some s)
    (rest : List UInt8) : scan .ready (b :: rest) = scan s rest := by
  simp [scan, step, start, h, lead]

theorem scan_last {low high b : UInt8} (value : Nat) (h : low ≤ b ∧ b ≤ high)
    (rest : List UInt8) :
    scan (.inside 1 low high value) (b :: rest)
      = some (Char.ofNat (value * 64 + b.toNat % 64)) :: scan .ready rest := by
  simp [scan, step, h.1, h.2]

theorem scan_more {low high b : UInt8} (missing value : Nat) (h : low ≤ b ∧ b ≤ high)
    (rest : List UInt8) :
    scan (.inside (missing + 2) low high value) (b :: rest)
      = scan (.inside (missing + 1) 0x80 0xBF (value * 64 + b.toNat % 64)) rest := by
  simp [scan, step, h.1, h.2]

/-! ### One character

The bytes of a character are written in terms of its number `v`: a leading byte and continuation
bytes `v % 64 + 128`. -/

theorem toNat_byte {n : Nat} (h : n < 256) : (UInt8.ofNat n).toNat = n := by
  rw [UInt8.toNat_ofNat']
  exact Nat.mod_eq_of_lt h

/-- A byte lies between two others when its number does. -/
theorem byte_range {low high : UInt8} {n : Nat} (h : low.toNat ≤ n ∧ n ≤ high.toNat) :
    low ≤ UInt8.ofNat n ∧ UInt8.ofNat n ≤ high := by
  have small : n < 256 := Nat.lt_of_le_of_lt h.2 high.toNat_lt
  rw [UInt8.le_iff_toNat_le, UInt8.le_iff_toNat_le, toNat_byte small]
  exact h

theorem tail_range (n : Nat) :
    (0x80 : UInt8) ≤ UInt8.ofNat (n % 64 + 128) ∧ UInt8.ofNat (n % 64 + 128) ≤ 0xBF := by
  refine byte_range ?_
  change 128 ≤ n % 64 + 128 ∧ n % 64 + 128 ≤ 191
  omega

theorem tail_bits (n : Nat) : (UInt8.ofNat (n % 64 + 128)).toNat % 64 = n % 64 := by
  rw [toNat_byte (by omega)]
  omega

theorem afterLead_two {n : Nat} (h : 2 ≤ n ∧ n < 32) :
    afterLead (UInt8.ofNat (n + 192)) = some (.inside 1 0x80 0xBF n) := by
  obtain ⟨low, high⟩ := h
  interval_cases n <;> rfl

/-- The range in which the second byte of a character of three bytes lies. -/
def secondOfThree (n : Nat) : UInt8 × UInt8 :=
  if n = 0 then (0xA0, 0xBF) else if n = 13 then (0x80, 0x9F) else (0x80, 0xBF)

theorem afterLead_three {n : Nat} (h : n < 16) :
    afterLead (UInt8.ofNat (n + 224))
      = some (.inside 2 (secondOfThree n).1 (secondOfThree n).2 n) := by
  interval_cases n <;> rfl

/-- The range in which the second byte of a character of four bytes lies. -/
def secondOfFour (n : Nat) : UInt8 × UInt8 :=
  if n = 0 then (0x90, 0xBF) else if n = 4 then (0x80, 0x8F) else (0x80, 0xBF)

theorem afterLead_four {n : Nat} (h : n < 5) :
    afterLead (UInt8.ofNat (n + 240))
      = some (.inside 3 (secondOfFour n).1 (secondOfFour n).2 n) := by
  interval_cases n <;> rfl

theorem not_ascii_lead {n k : Nat} (h : n + k < 256) (hk : 128 ≤ k) :
    ¬ UInt8.ofNat (n + k) < 0x80 := by
  rw [UInt8.lt_iff_toNat_lt, toNat_byte h]
  change ¬ n + k < 128
  omega

/-- The second byte of a character of three bytes lies in its range: longer forms than needed and
surrogates do not come from characters. -/
theorem secondOfThree_range {v : Nat} (large : 2047 < v) (valid : v.isValidChar)
    (small : v ≤ 65535) :
    (secondOfThree (v / 4096)).1 ≤ UInt8.ofNat (v / 64 % 64 + 128)
      ∧ UInt8.ofNat (v / 64 % 64 + 128) ≤ (secondOfThree (v / 4096)).2 := by
  unfold secondOfThree
  -- The small numbers have shorter forms, and the surrogates are no characters.
  split
  · refine byte_range ?_
    change 160 ≤ v / 64 % 64 + 128 ∧ v / 64 % 64 + 128 ≤ 191
    omega
  · split
    · refine byte_range ?_
      change 128 ≤ v / 64 % 64 + 128 ∧ v / 64 % 64 + 128 ≤ 159
      omega
    · exact tail_range _

/-- The second byte of a character of four bytes lies in its range: longer forms than needed and
numbers beyond the last character do not come from characters. -/
theorem secondOfFour_range {v : Nat} (large : 65535 < v) (valid : v.isValidChar) :
    (secondOfFour (v / 262144)).1 ≤ UInt8.ofNat (v / 4096 % 64 + 128)
      ∧ UInt8.ofNat (v / 4096 % 64 + 128) ≤ (secondOfFour (v / 262144)).2 := by
  unfold secondOfFour
  split
  · refine byte_range ?_
    change 144 ≤ v / 4096 % 64 + 128 ∧ v / 4096 % 64 + 128 ≤ 191
    omega
  · split
    · refine byte_range ?_
      change 128 ≤ v / 4096 % 64 + 128 ∧ v / 4096 % 64 + 128 ≤ 143
      omega
    · exact tail_range _

/-- The scanner reads the bytes of a character and is ready for the next. -/
theorem scan_encodeChar (c : Char) (rest : List UInt8) :
    scan .ready (String.utf8EncodeChar c ++ rest) = some c :: scan .ready rest := by
  have valid : c.val.toNat.isValidChar := c.valid
  have read : Char.ofNat c.val.toNat = c := Char.ofNat_toNat c
  unfold String.utf8EncodeChar
  generalize c.val.toNat = v at valid read
  dsimp only
  -- In each case the bytes are scanned from the left, and `parts` puts the number together again.
  split
  next one =>
    have ascii : UInt8.ofNat v < 0x80 := by
      rw [UInt8.lt_iff_toNat_lt, toNat_byte (by omega)]
      exact Nat.lt_succ_of_le one
    rw [List.singleton_append, scan_ascii ascii, toNat_byte (by omega), read]
  next one =>
    split
    next two =>
      have lead : v / 64 % 32 = v / 64 := by omega
      rw [lead, List.cons_append, List.singleton_append,
        scan_lead (not_ascii_lead (by omega) (by omega)) (afterLead_two (by omega)),
        scan_last _ (tail_range v), tail_bits, Nat.div_add_mod', read]
    next two =>
      split
      next three =>
        have lead : v / 4096 % 16 = v / 4096 := by omega
        have parts : (v / 4096 * 64 + v / 64 % 64) * 64 + v % 64 = v := by omega
        rw [lead, List.cons_append, List.cons_append, List.singleton_append,
          scan_lead (not_ascii_lead (by omega) (by omega)) (afterLead_three (by omega)),
          scan_more 0 _ (secondOfThree_range (by omega) valid three), tail_bits,
          scan_last _ (tail_range v), tail_bits, parts, read]
      next three =>
        have lead : v / 262144 % 8 = v / 262144 := by omega
        have parts : ((v / 262144 * 64 + v / 4096 % 64) * 64 + v / 64 % 64) * 64 + v % 64 = v := by
          omega
        rw [lead, List.cons_append, List.cons_append, List.cons_append, List.singleton_append,
          scan_lead (not_ascii_lead (by omega) (by omega)) (afterLead_four (by omega)),
          scan_more 1 _ (secondOfFour_range (by omega) valid), tail_bits,
          scan_more 0 _ (tail_range (v / 64)), tail_bits, scan_last _ (tail_range v), tail_bits,
          parts, read]

/-- The bytes of other characters are not of ASCII. -/
theorem eq_of_mem_encodeChar {c : Char} {b : UInt8} (mem : b ∈ String.utf8EncodeChar c)
    (ascii : b < 0x80) : c = Char.ofNat b.toNat := by
  have valid : c.val.toNat.isValidChar := c.valid
  have read : Char.ofNat c.val.toNat = c := Char.ofNat_toNat c
  have other {n k : Nat} (small : n + k < 256) (lead : 128 ≤ k) (eq : b = UInt8.ofNat (n + k)) :
      False := not_ascii_lead small lead (eq ▸ ascii)
  unfold String.utf8EncodeChar at mem
  generalize c.val.toNat = v at valid read mem
  dsimp only at mem
  split at mem
  next one =>
    rw [List.mem_singleton.1 mem, toNat_byte (by omega), read]
  next =>
    split at mem
    next =>
      simp only [List.mem_cons, List.not_mem_nil, or_false] at mem
      rcases mem with eq | eq
      all_goals exact (other (by omega) (by omega) eq).elim
    next =>
      split at mem
      next =>
        simp only [List.mem_cons, List.not_mem_nil, or_false] at mem
        rcases mem with eq | eq | eq
        all_goals exact (other (by omega) (by omega) eq).elim
      next =>
        simp only [List.mem_cons, List.not_mem_nil, or_false] at mem
        rcases mem with eq | eq | eq | eq
        all_goals exact (other (by omega) (by omega) eq).elim

/-! ### Texts -/

/-- A byte of ASCII is that of a character of the text. -/
theorem mem_of_mem_encode {s : String} {b : UInt8} (mem : b ∈ encode s) (ascii : b < 0x80) :
    Char.ofNat b.toNat ∈ s.toList := by
  obtain ⟨c, here, mem⟩ := List.mem_flatMap.1 mem
  exact eq_of_mem_encodeChar mem ascii ▸ here

/-- The scanner reads the characters of a text. -/
theorem scan_encode (s : String) : scan .ready (encode s) = s.toList.map some := by
  unfold encode
  induction s.toList with
  | nil => rfl
  | cons c cs ih => rw [List.flatMap_cons, scan_encodeChar, ih, List.map_cons]

theorem mapM_id_map_some (cs : List Char) : (cs.map some).mapM id = some cs := by
  induction cs with
  | nil => rfl
  | cons c cs ih =>
      rw [List.map_cons, List.mapM_cons, ih]
      rfl

/-- The bytes of a text are well-formed, and they are read as the text. -/
theorem decode?_encode (s : String) : decode? (encode s) = some s := by
  rw [decode?, scan_encode, mapM_id_map_some, Option.map_some, String.ofList_toList]

/-- The bytes of a text are read as the text, also when ill-formed parts would be replaced. -/
theorem decodeLossy_encode (s : String) : decodeLossy (encode s) = s := by
  rw [decodeLossy, scan_encode, List.map_map]
  have each : ((·.getD '\uFFFD') ∘ some : Char → Char) = id := rfl
  rw [each, List.map_id, String.ofList_toList]

/-- Different texts have different bytes. -/
theorem encode_injective : Function.Injective encode := by
  intro s t h
  have texts : some s = some t := by rw [← decode?_encode s, h, decode?_encode t]
  exact Option.some.inj texts

end WebDriverClient.Utf8
