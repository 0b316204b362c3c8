/-
**Percent-encoding is undone.**

A set of bytes may stand for themselves only if they belong to ASCII and the percent sign is not one
of them.  Then every byte of a text is read back from its form, whatever follows it, so decoding
undoes encoding.  If the set holds the percent sign and the digits after it, nothing can be decoded,
but a form needs no more encoding.  Of the unreserved set, the form of a text has only letters,
digits, four more characters and the percent sign.

Main definitions:

* `Percent.Readable` — a set of bytes that may stand for themselves;
* `Percent.Closed` — one that holds all bytes that others are written in;
* `Percent.IsKept` — the texts whose characters stand for themselves;
* `Percent.textOf?` — the text that an encoded text stands for;
* `Percent.isCoded` — the characters of the form of a text.

Main results:

* `Percent.decode_encode` — **decoding undoes encoding**;
* `Percent.encode_injective` — different texts have different forms;
* `Percent.encode_of_kept` — a text that needs no encoding;
* `Percent.isKept_encode` — a form that needs none, if the set is closed;
* `Percent.isCoded_of_mem` — the characters of the form.
-/

import WebDriverClient.Proofs.Text.Utf8
import WebDriverClient.Text.Percent

set_option autoImplicit false

namespace WebDriverClient.Percent

/-- The bytes of a set belong to ASCII, and the percent sign is not one of them. -/
structure Readable (keep : UInt8 → Bool) : Prop where
  /-- A byte of the set is a character. -/
  ascii : ∀ b, keep b = true → b < 0x80
  /-- A percent sign always begins the form of a byte. -/
  percent : keep 0x25 = false

theorem readable_isUnreserved : Readable isUnreserved := by
  refine ⟨fun b keep => ?_, rfl⟩
  simp only [isUnreserved, Bool.or_eq_true, Bool.and_eq_true, decide_eq_true_eq, beq_iff_eq,
    UInt8.le_iff_toNat_le] at keep
  rw [UInt8.lt_iff_toNat_lt]
  change b.toNat < 128
  rcases keep with (((((⟨-, h⟩ | ⟨-, h⟩) | ⟨-, h⟩) | h) | h) | h) | h
  · exact Nat.lt_of_le_of_lt h (by decide)
  · exact Nat.lt_of_le_of_lt h (by decide)
  · exact Nat.lt_of_le_of_lt h (by decide)
  all_goals exact h ▸ by decide

/-! ### The form of a byte -/

/-- The form of a byte as bytes. -/
def byteForm (keep : UInt8 → Bool) (b : UInt8) : List UInt8 :=
  if keep b then [b]
  else [0x25, UInt8.ofNat (hexDigit (b.toNat / 16)).toNat,
    UInt8.ofNat (hexDigit (b.toNat % 16)).toNat]

/-- A digit belongs to ASCII, and it is read as its number. -/
theorem hexDigit_spec {n : Nat} (h : n < 16) :
    (hexDigit n).toNat < 0x80
      ∧ hexValue? (UInt8.ofNat (hexDigit n).toNat) = some (UInt8.ofNat n) := by
  interval_cases n <;> decide

theorem toNat_ofNat_byte {b : UInt8} (h : b < 0x80) : (Char.ofNat b.toNat).toNat = b.toNat := by
  have small : b.toNat < 128 := UInt8.lt_iff_toNat_lt.1 h
  have valid : b.toNat.isValidChar := Or.inl (by omega)
  have char : Char.ofNat b.toNat = Char.ofNatAux b.toNat valid := dif_pos valid
  rw [char]
  rfl

/-- The form of a byte belongs to ASCII. -/
theorem ascii_encodeByte {keep : UInt8 → Bool} (readable : Readable keep) {b : UInt8} {c : Char}
    (h : c ∈ encodeByte keep b) : c.toNat < 0x80 := by
  unfold encodeByte at h
  split at h
  next kept =>
    rw [List.mem_singleton.1 h, toNat_ofNat_byte (readable.ascii b kept)]
    exact UInt8.lt_iff_toNat_lt.1 (readable.ascii b kept)
  next =>
    have high : b.toNat / 16 < 16 := by have := b.toNat_lt; omega
    have low : b.toNat % 16 < 16 := by omega
    rcases List.mem_cons.1 h with rfl | h
    · decide
    · rcases List.mem_cons.1 h with rfl | h
      · exact (hexDigit_spec high).1
      · rw [List.mem_singleton.1 h]
        exact (hexDigit_spec low).1

theorem map_encodeByte {keep : UInt8 → Bool} (readable : Readable keep) (b : UInt8) :
    (encodeByte keep b).map (fun c => UInt8.ofNat c.toNat) = byteForm keep b := by
  unfold encodeByte byteForm
  split
  next kept =>
    rw [List.map_singleton, toNat_ofNat_byte (readable.ascii b kept), UInt8.ofNat_toNat]
  next => rfl

theorem ascii_encode {keep : UInt8 → Bool} (readable : Readable keep) {s : String} {c : Char}
    (h : c ∈ encode keep s) : c.toNat < 0x80 := by
  obtain ⟨b, -, mem⟩ := List.mem_flatMap.1 h
  exact ascii_encodeByte readable mem

theorem bytes_encode {keep : UInt8 → Bool} (readable : Readable keep) (s : String) :
    Utf8.encode (String.ofList (encode keep s)) = (Utf8.encode s).flatMap (byteForm keep) := by
  rw [Utf8.encode_ascii fun c h => ascii_encode readable h, encode, List.map_flatMap]
  simp only [map_encodeByte readable]

/-! ### Reading -/

theorem decode_percent {a b x y : UInt8} (ha : hexValue? a = some x) (hb : hexValue? b = some y)
    (rest : List UInt8) : decode (0x25 :: a :: b :: rest) = (x * 16 + y) :: decode rest := by
  rw [decode, ha, hb]

theorem decode_other {b : UInt8} (h : b ≠ 0x25) (rest : List UInt8) :
    decode (b :: rest) = b :: decode rest := by
  rw [decode]
  intro _ _ _ percent
  exact absurd percent h

theorem two_digits (b : UInt8) :
    UInt8.ofNat (b.toNat / 16) * 16 + UInt8.ofNat (b.toNat % 16) = b := by
  apply UInt8.toNat_inj.1
  have := b.toNat_lt
  rw [UInt8.toNat_add, UInt8.toNat_mul, Utf8.toNat_byte (by omega), Utf8.toNat_byte (by omega)]
  change (b.toNat / 16 * 16 % 256 + b.toNat % 16) % 256 = b.toNat
  omega

/-- A byte is read from its form. -/
theorem decode_byteForm {keep : UInt8 → Bool} (readable : Readable keep) (b : UInt8)
    (rest : List UInt8) : decode (byteForm keep b ++ rest) = b :: decode rest := by
  unfold byteForm
  split
  next kept =>
    have other : b ≠ 0x25 := by
      rintro rfl
      rw [readable.percent] at kept
      exact absurd kept Bool.false_ne_true
    exact decode_other other rest
  next =>
    have high : b.toNat / 16 < 16 := by have := b.toNat_lt; omega
    have low : b.toNat % 16 < 16 := by omega
    have read := decode_percent (hexDigit_spec high).2 (hexDigit_spec low).2 rest
    rw [two_digits] at read
    exact read

/-- Decoding undoes encoding. -/
theorem decode_encode {keep : UInt8 → Bool} (readable : Readable keep) (s : String) :
    decode (Utf8.encode (String.ofList (encode keep s))) = Utf8.encode s := by
  rw [bytes_encode readable]
  induction Utf8.encode s with
  | nil => rfl
  | cons b bytes ih => rw [List.flatMap_cons, decode_byteForm readable, ih]

/-- Different texts have different forms. -/
theorem encode_injective {keep : UInt8 → Bool} (readable : Readable keep) :
    Function.Injective (encode keep) := by
  intro s t h
  have bytes : Utf8.encode s = Utf8.encode t := by
    rw [← decode_encode readable s, h, decode_encode readable t]
  exact Utf8.encode_injective bytes

/-- The text that an encoded text stands for, if its bytes are those of one. -/
def textOf? (form : List Char) : Option String :=
  Utf8.decode? (decode (Utf8.encode (String.ofList form)))

theorem textOf?_encode {keep : UInt8 → Bool} (readable : Readable keep) (s : String) :
    textOf? (encode keep s) = some s := by
  rw [textOf?, decode_encode readable, Utf8.decode?_encode]

/-- A text whose characters all stand for themselves is its own form. -/
theorem encode_of_kept {keep : UInt8 → Bool} {cs : List Char}
    (h : ∀ c ∈ cs, c.toNat < 0x80 ∧ keep (UInt8.ofNat c.toNat) = true) :
    encode keep (String.ofList cs) = cs := by
  rw [encode, Utf8.encode_ascii fun c mem => (h c mem).1, List.flatMap_map]
  induction cs with
  | nil => rfl
  | cons c cs ih =>
      obtain ⟨ascii, kept⟩ := h c List.mem_cons_self
      have here : encodeByte keep (UInt8.ofNat c.toNat) = [c] := by
        rw [encodeByte, if_pos kept, Utf8.toNat_byte (Nat.lt_trans ascii (by decide)),
          Char.ofNat_toNat]
      rw [List.flatMap_cons, here, ih fun d mem => h d (List.mem_cons_of_mem _ mem)]
      rfl

/-! ### Forms that are kept -/

/-- The characters of the text stand for themselves. -/
def IsKept (keep : UInt8 → Bool) (cs : List Char) : Prop :=
  ∀ c ∈ cs, c.toNat < 0x80 ∧ keep (UInt8.ofNat c.toNat) = true

/-- What holds of all characters that stand for themselves. -/
theorem IsKept.of {keep : UInt8 → Bool} {p : Char → Prop}
    (check : ∀ n < 0x80, keep (UInt8.ofNat n) = true → p (Char.ofNat n)) {cs : List Char}
    (h : IsKept keep cs) : ∀ c ∈ cs, p c := by
  intro c mem
  obtain ⟨ascii, kept⟩ := h c mem
  have here := check c.toNat ascii kept
  rwa [Char.ofNat_toNat] at here

/-- The bytes of a set belong to ASCII, and those that others are written in belong to the set. -/
structure Closed (keep : UInt8 → Bool) : Prop where
  /-- A byte of the set is a character. -/
  ascii : ∀ b, keep b = true → b < 0x80
  /-- The percent sign stands for itself. -/
  percent : keep 0x25 = true
  /-- So do the digits after it. -/
  digit : ∀ n < 16, keep (UInt8.ofNat (hexDigit n).toNat) = true

/-- The characters of a form are those of the text that stand for themselves, percent signs and
digits. -/
theorem mem_encode {keep : UInt8 → Bool} (ascii : ∀ b, keep b = true → b < 0x80) {s : String}
    {c : Char} (h : c ∈ encode keep s) :
    (c ∈ s.toList ∧ c.toNat < 0x80 ∧ keep (UInt8.ofNat c.toNat) = true) ∨ c = '%' ∨
      ∃ n < 16, c = hexDigit n := by
  obtain ⟨b, memByte, mem⟩ := List.mem_flatMap.1 h
  unfold encodeByte at mem
  split at mem
  next kept =>
    obtain rfl := List.mem_singleton.1 mem
    have small := ascii b kept
    rw [toNat_ofNat_byte small, UInt8.ofNat_toNat]
    exact .inl ⟨Utf8.mem_of_mem_encode memByte small, UInt8.lt_iff_toNat_lt.1 small, kept⟩
  next =>
    have high : b.toNat / 16 < 16 := by have := b.toNat_lt; omega
    have low : b.toNat % 16 < 16 := by omega
    simp only [List.mem_cons, List.not_mem_nil, or_false] at mem
    rcases mem with rfl | rfl | rfl
    · exact .inr (.inl rfl)
    · exact .inr (.inr ⟨_, high, rfl⟩)
    · exact .inr (.inr ⟨_, low, rfl⟩)

/-- A form is kept by the encoding that it comes from. -/
theorem isKept_encode {keep : UInt8 → Bool} (closed : Closed keep) (s : String) :
    IsKept keep (encode keep s) := by
  intro c mem
  rcases mem_encode closed.ascii mem with ⟨-, kept⟩ | rfl | ⟨n, small, rfl⟩
  · exact kept
  · exact ⟨by decide, closed.percent⟩
  · exact ⟨(hexDigit_spec small).1, closed.digit n small⟩

/-- The bytes of ASCII other than the percent sign. -/
def isAsciiByte (b : UInt8) : Bool := b < 0x80 && b ≠ 0x25

theorem readable_isAsciiByte : Readable isAsciiByte := by
  refine ⟨fun b keep => ?_, rfl⟩
  rw [isAsciiByte, Bool.and_eq_true] at keep
  exact of_decide_eq_true keep.1

/-- An ASCII text without percent signs stands for itself. -/
theorem textOf?_of_ascii {cs : List Char} (h : ∀ c ∈ cs, c.toNat < 0x80 ∧ c ≠ '%') :
    textOf? cs = some (String.ofList cs) := by
  have kept : ∀ n < 0x80, Char.ofNat n ≠ '%' → isAsciiByte (UInt8.ofNat n) = true := by decide
  have read := textOf?_encode readable_isAsciiByte (String.ofList cs)
  rwa [encode_of_kept] at read
  intro c mem
  obtain ⟨ascii, other⟩ := h c mem
  refine ⟨ascii, kept c.toNat ascii ?_⟩
  rwa [Char.ofNat_toNat]

/-! ### The characters of a form -/

/-- Unreserved characters and the percent sign. -/
def isCoded (c : Char) : Bool := c = '%' || (c.toNat < 0x80 && isUnreserved (UInt8.ofNat c.toNat))

theorem isCoded_hexDigit {n : Nat} (h : n < 16) : isCoded (hexDigit n) = true := by
  interval_cases n <;> decide

theorem isCoded_of_mem {s : String} {c : Char} (h : c ∈ encode isUnreserved s) :
    isCoded c = true := by
  obtain ⟨b, -, mem⟩ := List.mem_flatMap.1 h
  unfold encodeByte at mem
  split at mem
  next kept =>
    have ascii := readable_isUnreserved.ascii b kept
    have small : b.toNat < 0x80 := UInt8.lt_iff_toNat_lt.1 ascii
    rw [List.mem_singleton.1 mem]
    simp only [isCoded, toNat_ofNat_byte ascii, UInt8.ofNat_toNat, kept, small, decide_true,
      Bool.and_self, Bool.or_true]
  next =>
    have high : b.toNat / 16 < 16 := by have := b.toNat_lt; omega
    have low : b.toNat % 16 < 16 := by omega
    rcases List.mem_cons.1 mem with rfl | mem
    · rfl
    · rcases List.mem_cons.1 mem with rfl | mem
      · exact isCoded_hexDigit high
      · exact List.mem_singleton.1 mem ▸ isCoded_hexDigit low

/-- What holds of the coded characters of ASCII holds of every coded character. -/
theorem of_isCoded {p : Char → Prop}
    (check : ∀ n < 128, isCoded (Char.ofNat n) = true → p (Char.ofNat n)) {c : Char}
    (h : isCoded c = true) : p c := by
  have small : c.toNat < 128 := by
    rcases Bool.or_eq_true_iff.1 h with h | h
    · rw [of_decide_eq_true h]
      decide
    · exact of_decide_eq_true (Bool.and_eq_true_iff.1 h).1
  -- There are few enough characters of ASCII for `check` to be decided, number by number.
  have same : Char.ofNat c.toNat = c := Char.ofNat_toNat c
  exact same ▸ check c.toNat small (same.symm ▸ h)

end WebDriverClient.Percent
