/-
**How addresses of hosts are written.**

An IPv6 address has many forms: groups of one to four hexadecimal digits in either case with colons
between them, two colons for a run of zeros of any length, and an IPv4 address for the last two
groups.  Each of them is read as the address that it stands for; an IPv4 address has one form.

Main definitions:

* `Ipv6.Group`, `Ipv6.Row`, `Ipv6.Side` — the forms of one piece, of several and of those next to
  two colons;
* `Ipv6.IsWritten`, `Host.IsWritten` — the forms of an address, and those of a host that is one;
* `Host.IsEnclosed` — the forms among them with colons in brackets only.

Main results:

* `Ipv6.parse?_of_isWritten` — every form of an IPv6 address is read as the address;
* `Ipv6.isWritten_text` — what an IPv6 address is shown as is one of its forms;
* `Host.IsEnclosed.parse_eq` — **an address is read where any host may stand**, and so it is read
  back from what it is shown as;
* `parseHostPort_isEnclosed` — an address and a port.
-/

import WebDriverClient.Proofs.Url.Numerals
import WebDriverClient.Url.Parse

set_option autoImplicit false

namespace WebDriverClient.Url

namespace Ipv6

/-! ### Forms -/

/-- The digits are a form of the piece. -/
def Group (p : UInt16) (s : List Char) : Prop := s.length ≤ 4 ∧ Numeral 16 s p.toNat

/-- The text is a form of the pieces, of which there is at least one.  The last two may be an IPv4
address if `embedded` holds. -/
inductive Row (embedded : Bool) : List UInt16 → List Char → Prop
  | one {p : UInt16} {s : List Char} (h : Group p s) : Row embedded [p] s
  | ipv4 {p q : UInt16} (a : Ipv4) (allowed : embedded = true)
      (value : p.toNat * 65536 + q.toNat = a.value.toNat) : Row embedded [p, q] a.text
  | cons {p : UInt16} {s : List Char} {ps : List UInt16} {t : List Char} (h : Group p s)
      (rest : Row embedded ps t) : Row embedded (p :: ps) (s ++ ':' :: t)

/-- The text is a form of the pieces, if there are any. -/
inductive Side (embedded : Bool) : List UInt16 → List Char → Prop
  | empty : Side embedded [] []
  | row {ps : List UInt16} {s : List Char} (h : Row embedded ps s) : Side embedded ps s

/-- The text is a form of the address. -/
inductive IsWritten (a : Ipv6) : List Char → Prop
  /-- All eight pieces are written. -/
  | full {s : List Char} (h : Row true a.pieces s) : IsWritten a s
  /-- Two colons stand for one zero or more. -/
  | gap {left right : List UInt16} {s t : List Char} (zeros : Nat) (some : 0 < zeros)
      (before : Side false left s) (after : Side true right t)
      (pieces : a.pieces = left ++ List.replicate zeros 0 ++ right) :
      IsWritten a (s ++ ':' :: ':' :: t)

/-! ### Characters -/

/-- A hexadecimal digit or a period. -/
def isGroupChar (c : Char) : Bool := "0123456789abcdefABCDEF.".toList.contains c

theorem Group.isGroupChar {p : UInt16} {s : List Char} (h : Group p s) :
    ∀ c ∈ s, isGroupChar c = true := by
  intro c mem
  obtain ⟨v, digit⟩ := h.2.exists_isDigit c mem
  exact digit.of (p := (Ipv6.isGroupChar · = true)) (by decide) (by decide)

theorem isGroupChar_text (a : Ipv4) : ∀ c ∈ a.text, isGroupChar c = true := by
  intro c mem
  rcases a.isDigit_or_dot c mem with digit | rfl
  · exact Text.of_isDigit (p := (isGroupChar · = true)) (by decide) digit
  · decide

theorem ne_colon {s : List Char} (h : ∀ c ∈ s, isGroupChar c = true) :
    ∀ c ∈ s, decide (c = ':') = false := by
  intro c mem
  refine decide_eq_false ?_
  rintro rfl
  exact absurd (h ':' mem) (by decide)

theorem Row.exists_head {embedded : Bool} {ps : List UInt16} {s : List Char}
    (h : Row embedded ps s) : ∃ c t, s = c :: t ∧ Ipv6.isGroupChar c = true := by
  have group {p : UInt16} {s : List Char} (h : Group p s) :
      ∃ c t, s = c :: t ∧ Ipv6.isGroupChar c = true := by
    obtain ⟨c, t, rfl⟩ := List.exists_cons_of_ne_nil h.2.ne_nil
    exact ⟨c, t, rfl, h.isGroupChar c List.mem_cons_self⟩
  cases h with
  | one h => exact group h
  | ipv4 a =>
      obtain ⟨c, t, eq⟩ := List.exists_cons_of_ne_nil a.text_ne_nil
      exact ⟨c, t, eq, isGroupChar_text a c (eq ▸ List.mem_cons_self)⟩
  | cons h rest =>
      obtain ⟨c, t, rfl, here⟩ := group h
      exact ⟨c, _, rfl, here⟩

/-! ### Reading pieces -/

theorem Group.piece?_eq {p : UInt16} {s : List Char} (h : Group p s) : piece? s = some p := by
  obtain ⟨short, numeral⟩ := h
  have notEmpty : s.isEmpty = false := List.isEmpty_eq_false_iff.2 numeral.ne_nil
  have notLong : ¬ 4 < s.length := Nat.not_lt_of_le short
  rw [piece?, notEmpty, decide_eq_false notLong, numeral.numeral?_eq (by decide)]
  exact congrArg some (UInt16.ofNat_toNat)

theorem Group.not_contains {p : UInt16} {s : List Char} (h : Group p s) :
    s.contains '.' = false := by
  rw [Bool.eq_false_iff]
  intro dot
  obtain ⟨v, digit⟩ := h.2.exists_isDigit '.' (List.contains_iff_mem.1 dot)
  exact digit.of (p := (· ≠ '.')) (by decide) (by decide) rfl

/-- A row is read as its pieces. -/
theorem Row.pieces?_eq {embedded : Bool} {ps : List UInt16} {s : List Char}
    (h : Row embedded ps s) : pieces? embedded (s.splitOnP (· = ':')) = some ps := by
  induction h with
  | one group =>
      rw [List.splitOnP_eq_singleton (ne_colon group.isGroupChar), pieces?, group.not_contains,
        Bool.and_false, group.piece?_eq]
      rfl
  | @ipv4 p q a allowed value =>
      have dot : a.text.contains '.' = true := by
        rw [List.contains_iff_mem]
        simp [Ipv4.text]
      have pieces : ofIpv4 a = [p, q] := by
        have small := q.toNat_lt
        have high : a.value.toNat / 65536 = p.toNat := by omega
        have low : a.value.toNat % 65536 = q.toNat := by omega
        rw [ofIpv4, high, low, UInt16.ofNat_toNat, UInt16.ofNat_toNat]
      rw [List.splitOnP_eq_singleton (ne_colon (isGroupChar_text a)), pieces?, allowed, dot,
        a.octets?_text]
      exact congrArg some pieces
  | @cons p s ps t group rest ih =>
      rw [List.splitOnP_append_cons_of_forall_mem (ne_colon group.isGroupChar) ':' (by decide)]
      obtain ⟨first, more, eq⟩ := List.exists_cons_of_ne_nil (List.splitOnP_ne_nil _ t)
      rw [eq] at ih ⊢
      rw [pieces?, group.piece?_eq, ih]
      · rfl
      · simp

/-- A side is read as its pieces. -/
theorem Side.side?_eq {embedded : Bool} {ps : List UInt16} {s : List Char}
    (h : Side embedded ps s) : side? embedded s = some ps := by
  cases h with
  | empty => rfl
  | row row =>
      obtain ⟨c, t, rfl, -⟩ := row.exists_head
      exact row.pieces?_eq

/-! ### The gap -/

/-- What comes before the gap is kept as long as it does not end in a colon. -/
theorem splitAtGap_cons {c : Char} {s : List Char} (h : c ≠ ':' ∨ s.head? ≠ some ':') :
    splitAtGap (c :: s) = (splitAtGap s).map fun sides => (c :: sides.1, sides.2) := by
  rw [splitAtGap]
  rintro rest rfl rfl
  simp at h

theorem splitAtGap_append {s : List Char} (h : ∀ c ∈ s, isGroupChar c = true) (rest : List Char) :
    splitAtGap (s ++ rest) = (splitAtGap rest).map fun sides => (s ++ sides.1, sides.2) := by
  induction s with
  | nil => simp
  | cons c s ih =>
      obtain ⟨here, later⟩ := List.forall_mem_cons.1 h
      have noColon : c ≠ ':' := by
        rintro rfl
        exact absurd here (by decide)
      rw [List.cons_append, splitAtGap_cons (.inl noColon), ih later, Option.map_map]
      rfl

/-- There is no gap inside of a row or at its end. -/
theorem Row.splitAtGap_append {embedded : Bool} {ps : List UInt16} {s : List Char}
    (h : Row embedded ps s) (rest : List Char) :
    splitAtGap (s ++ rest) = (splitAtGap rest).map fun sides => (s ++ sides.1, sides.2) := by
  induction h with
  | one group => exact Ipv6.splitAtGap_append group.isGroupChar rest
  | ipv4 a => exact Ipv6.splitAtGap_append (isGroupChar_text a) rest
  | @cons p s ps t group row ih =>
      have head : (t ++ rest).head? ≠ some ':' := by
        obtain ⟨c, t, rfl, here⟩ := row.exists_head
        intro colon
        obtain rfl := Option.some.inj colon
        exact absurd here (by decide)
      rw [List.append_assoc, List.cons_append, Ipv6.splitAtGap_append group.isGroupChar,
        splitAtGap_cons (.inr head), ih, Option.map_map, Option.map_map]
      congr
      funext sides
      simp

theorem Side.splitAtGap_gap {embedded : Bool} {ps : List UInt16} {s : List Char}
    (h : Side embedded ps s) (t : List Char) :
    splitAtGap (s ++ ':' :: ':' :: t) = some (s, t) := by
  cases h with
  | empty => rfl
  | row row =>
      rw [row.splitAtGap_append]
      exact congrArg some (Prod.ext (List.append_nil s) rfl)

/-! ### Reading addresses -/

variable {a : Ipv6}

theorem ofPieces?_eq {pieces : List UInt16} (h : a.pieces = pieces) :
    ofPieces? pieces = some a := by
  subst h
  exact dif_pos a.length_eq

/-- Every form of an address is read as the address. -/
theorem parse?_of_isWritten {s : List Char} (h : a.IsWritten s) : parse? s = some a := by
  cases h with
  | full row =>
      have noGap : splitAtGap s = none := by
        have cut := row.splitAtGap_append []
        rwa [List.append_nil] at cut
      rw [parse?, noGap]
      simp only [row.pieces?_eq, Option.bind_eq_bind, Option.bind_some]
      exact ofPieces?_eq rfl
  | @gap left right s t zeros some before after pieces =>
      have length : left.length + zeros + right.length = 8 := by
        have eight := a.length_eq
        rwa [pieces, List.length_append, List.length_append, List.length_replicate] at eight
      have missing : 8 - (left.length + right.length) = zeros := by omega
      have few : left.length + right.length < 8 := by omega
      rw [parse?, before.splitAtGap_gap]
      simp only [before.side?_eq, after.side?_eq, Option.bind_eq_bind, Option.bind_some, few,
        ↓reduceIte, missing]
      exact ofPieces?_eq pieces

/-! ### Characters of forms -/

/-- A character of a group, or a colon. -/
def isAddressChar (c : Char) : Bool := isGroupChar c || c = ':'

theorem isAddressChar_of_isGroupChar {s : List Char} (h : ∀ c ∈ s, isGroupChar c = true) :
    ∀ c ∈ s, isAddressChar c = true := by
  intro c mem
  rw [isAddressChar, h c mem]
  rfl

theorem Row.isAddressChar {embedded : Bool} {ps : List UInt16} {s : List Char}
    (h : Row embedded ps s) : ∀ c ∈ s, isAddressChar c = true := by
  induction h with
  | one group => exact isAddressChar_of_isGroupChar group.isGroupChar
  | ipv4 a => exact isAddressChar_of_isGroupChar (isGroupChar_text a)
  | cons group rest ih =>
      exact List.forall_mem_append.2
        ⟨isAddressChar_of_isGroupChar group.isGroupChar, List.forall_mem_cons.2 ⟨by decide, ih⟩⟩

theorem Side.isAddressChar {embedded : Bool} {ps : List UInt16} {s : List Char}
    (h : Side embedded ps s) : ∀ c ∈ s, isAddressChar c = true := by
  cases h with
  | empty => exact fun c mem => (nomatch mem)
  | row row => exact row.isAddressChar

theorem IsWritten.isAddressChar {s : List Char} (h : a.IsWritten s) :
    ∀ c ∈ s, isAddressChar c = true := by
  cases h with
  | full row => exact row.isAddressChar
  | gap zeros some before after pieces =>
      exact List.forall_mem_append.2 ⟨before.isAddressChar,
        List.forall_mem_cons.2 ⟨by decide, List.forall_mem_cons.2 ⟨by decide, after.isAddressChar⟩⟩⟩

/-- What holds of the characters that forms are made of. -/
theorem of_isAddressChar {p : Char → Prop}
    (check : ∀ c ∈ "0123456789abcdefABCDEF.:".toList, p c) {c : Char}
    (h : Ipv6.isAddressChar c = true) : p c := by
  refine check c ?_
  rw [Ipv6.isAddressChar, Bool.or_eq_true, decide_eq_true_eq, isGroupChar,
    List.contains_iff_mem] at h
  have listed : "0123456789abcdefABCDEF.:".toList = "0123456789abcdefABCDEF.".toList ++ [':'] := by
    decide
  rw [listed, List.mem_append, List.mem_singleton]
  exact h

/-- Every form of an address has a colon. -/
theorem IsWritten.colon_mem {s : List Char} (h : a.IsWritten s) : ':' ∈ s := by
  cases h with
  | full row =>
      have eight := a.length_eq
      generalize a.pieces = pieces at row eight
      cases row with
      | one => nomatch eight
      | ipv4 => nomatch eight
      | cons => exact List.mem_append_right _ List.mem_cons_self
  | gap => exact List.mem_append_right _ List.mem_cons_self

/-! ### The form that is shown -/

theorem group_pieceText (p : UInt16) : Group p (pieceText p) := by
  have short : (pieceText p).length ≤ 4 :=
    (Nat.length_toDigits_le_iff (by decide) (by decide)).2 p.toNat_lt
  exact ⟨short, numeral_toDigits (by decide) p.toNat⟩

theorem joined_cons_cons (p q : UInt16) (ps : List UInt16) :
    joined (p :: q :: ps) = pieceText p ++ ':' :: joined (q :: ps) := by
  simp [joined]

theorem row_joined {embedded : Bool} (p : UInt16) (ps : List UInt16) :
    Row embedded (p :: ps) (joined (p :: ps)) := by
  induction ps generalizing p with
  | nil =>
      have one : joined [p] = pieceText p := by simp [joined]
      exact one ▸ .one (group_pieceText p)
  | cons q ps ih =>
      rw [joined_cons_cons]
      exact .cons (group_pieceText p) (ih q)

theorem side_joined {embedded : Bool} (ps : List UInt16) : Side embedded ps (joined ps) := by
  cases ps with
  | nil => exact .empty
  | cons p ps => exact .row (row_joined p ps)

theorem eq_replicate_zeros (ps : List UInt16) :
    ps = List.replicate (zeros ps) 0 ++ ps.drop (zeros ps) := by
  induction ps with
  | nil => rfl
  | cons p ps ih =>
      by_cases zero : p = 0
      · have more : zeros (p :: ps) = zeros ps + 1 := by simp [zeros, zero]
        rw [more, List.replicate_succ, List.cons_append, List.drop_succ_cons, ← ih, zero]
      · have none : zeros (p :: ps) = 0 := by simp [zeros, zero]
        rw [none]
        rfl

/-- The run that is left out is one of zeros. -/
theorem eq_longestRun (ps : List UInt16) :
    ps = ps.take (longestRun ps).1 ++ List.replicate (longestRun ps).2 0
      ++ ps.drop ((longestRun ps).1 + (longestRun ps).2) := by
  induction ps with
  | nil => rfl
  | cons p ps ih =>
      rw [longestRun]
      dsimp only
      split
      next => simpa using eq_replicate_zeros (p :: ps)
      next =>
        rw [List.take_succ_cons, Nat.add_right_comm, List.drop_succ_cons, List.cons_append,
          List.cons_append, ← ih]

/-- What an address is shown as is one of its forms. -/
theorem isWritten_text (a : Ipv6) : a.IsWritten a.text := by
  unfold text
  dsimp only
  split
  next =>
    have some : a.pieces ≠ [] := by
      intro empty
      have eight := a.length_eq
      rw [empty] at eight
      nomatch eight
    obtain ⟨p, ps, eq⟩ := List.exists_cons_of_ne_nil some
    have row : Row true a.pieces (joined a.pieces) := eq ▸ row_joined p ps
    exact .full row
  next long =>
    rw [List.append_assoc]
    exact .gap (longestRun a.pieces).2 (by omega) (side_joined _) (side_joined _)
      (eq_longestRun a.pieces)

end Ipv6

/-! ### Hosts -/

namespace Host

/-- The text is a form of the host, which is an address, with colons in brackets only. -/
inductive IsEnclosed : Host → List Char → Prop
  | ipv4 (a : Ipv4) : IsEnclosed (.ipv4 a) a.text
  | ipv6 {a : Ipv6} {s : List Char} (h : a.IsWritten s) :
      IsEnclosed (.ipv6 a) ('[' :: (s ++ [']']))

/-- The text is a form of the host, which is an address. -/
inductive IsWritten : Host → List Char → Prop
  /-- A form with colons in brackets only. -/
  | enclosed {host : Host} {s : List Char} (h : IsEnclosed host s) : IsWritten host s
  /-- An IPv6 address without brackets. -/
  | bare {a : Ipv6} {s : List Char} (h : a.IsWritten s) : IsWritten (.ipv6 a) s

variable {host : Host} {s : List Char}

/-- An address is read where any host may stand. -/
theorem IsEnclosed.parse_eq (h : IsEnclosed host s) : parse s = .ok host := by
  cases h with
  | ipv4 a => exact parse_ipv4 a
  | @ipv6 a s written =>
      rw [parse, parseBracketed, List.getLast?_concat, if_pos rfl, List.dropLast_concat,
        Ipv6.parse?_of_isWritten written]

/-- An address is read back from what it is shown as. -/
theorem IsEnclosed.parse_text (h : IsEnclosed host s) : parse host.text = .ok host := by
  cases h with
  | ipv4 a => exact parse_ipv4 a
  | @ipv6 a => exact parse_eq (.ipv6 a.isWritten_text)

theorem IsEnclosed.ne_nil (h : IsEnclosed host s) : s ≠ [] := by
  cases h with
  | ipv4 a => exact a.text_ne_nil
  | ipv6 => exact List.cons_ne_nil _ _

theorem IsEnclosed.isEmpty_eq (h : IsEnclosed host s) : host.isEmpty = false := by
  cases h <;> rfl

/-- The characters of an address and its brackets. -/
theorem IsEnclosed.mem (h : IsEnclosed host s) :
    ∀ c ∈ s, Ipv6.isAddressChar c = true ∨ c = '[' ∨ c = ']' := by
  cases h with
  | ipv4 a =>
      intro c mem
      exact .inl (Ipv6.isAddressChar_of_isGroupChar (Ipv6.isGroupChar_text a) c mem)
  | ipv6 written =>
      intro c mem
      simp only [List.mem_cons, List.mem_append, List.not_mem_nil, or_false] at mem
      rcases mem with rfl | mem | rfl
      · exact .inr (.inl rfl)
      · exact .inl (written.isAddressChar c mem)
      · exact .inr (.inr rfl)

end Host

/-! ### Hosts and ports -/

/-- The text of a host goes on as long as there is no bracket, and no colon outside of brackets. -/
theorem spanHost_append {bracketed : Bool} {s : List Char}
    (h : ∀ c ∈ s, c ≠ '[' ∧ c ≠ ']' ∧ (c = ':' → bracketed = true)) (rest : List Char) :
    spanHost bracketed (s ++ rest)
      = (s ++ (spanHost bracketed rest).1, (spanHost bracketed rest).2) := by
  induction s with
  | nil => rfl
  | cons c s ih =>
      obtain ⟨⟨opening, closing, colon⟩, later⟩ := List.forall_mem_cons.1 h
      have goesOn : ¬ (decide (c = ':') && !bracketed) = true := by
        rw [Bool.and_eq_true, decide_eq_true_eq, Bool.not_eq_true']
        rintro ⟨here, outside⟩
        exact absurd (colon here) (Bool.eq_false_iff.1 outside)
      have inside : ((bracketed || decide (c = '[')) && decide (c ≠ ']')) = bracketed := by
        rw [decide_eq_false opening, decide_eq_true closing, Bool.or_false, Bool.and_true]
      rw [List.cons_append, spanHost, if_neg goesOn, inside, ih later]
      rfl

/-- The text of a host ends where the text after it has no host to begin with, as at the colon
before the port. -/
theorem Host.IsEnclosed.spanHost_eq {host : Host} {s : List Char} (h : host.IsEnclosed s)
    {rest : List Char} (ends : spanHost false rest = ([], rest)) :
    spanHost false (s ++ rest) = (s, rest) := by
  cases h with
  | ipv4 a =>
      have chars : ∀ c ∈ a.text, c ≠ '[' ∧ c ≠ ']' ∧ (c = ':' → false = true) := by
        intro c mem
        rcases a.isDigit_or_dot c mem with digit | rfl
        · exact Text.of_isDigit (p := fun c => c ≠ '[' ∧ c ≠ ']' ∧ (c = ':' → false = true))
            (by decide) digit
        · decide
      rw [spanHost_append chars, ends, List.append_nil]
  | @ipv6 a s written =>
      have chars : ∀ c ∈ s, c ≠ '[' ∧ c ≠ ']' ∧ (c = ':' → true = true) := fun c mem =>
        Ipv6.of_isAddressChar (p := fun c => c ≠ '[' ∧ c ≠ ']' ∧ (c = ':' → true = true))
          (List.all_iff_forall_prop.1 (by decide)) (written.isAddressChar c mem)
      have opened : spanHost false ('[' :: (s ++ ']' :: rest))
          = ('[' :: (spanHost true (s ++ ']' :: rest)).1, (spanHost true (s ++ ']' :: rest)).2) :=
        rfl
      have closed : spanHost true (']' :: rest)
          = (']' :: (spanHost false rest).1, (spanHost false rest).2) := rfl
      rw [List.cons_append, List.append_assoc, List.singleton_append, opened,
        spanHost_append chars, closed, ends]

/-- The decimal digits of a port are read; the port of the scheme need not be kept. -/
theorem parsePort_decimal {port : Nat} (small : port < 65536) (usual : Nat) :
    parsePort (.network usual) (decimal port)
      = .ok (if usual = port then none else some port) := by
  have number : portNumber (decimal port) = .ok port := by
    simp only [portNumber, numeral?_decimal, small, ↓reduceIte]
  have notEmpty : (decimal port).isEmpty = false :=
    List.isEmpty_eq_false_iff.2 (decimal_ne_nil port)
  simp only [parsePort, number, notEmpty, Kind.defaultPort, Bool.false_or, Option.some.injEq,
    decide_eq_true_eq]
  exact (apply_ite Except.ok _ _ _).symm

/-- A host that is an address is read together with its port. -/
theorem parseHostPort_isEnclosed {host : Host} {s : List Char} (h : host.IsEnclosed s)
    {port : Nat} (small : port < 65536) (usual : Nat) :
    parseHostPort (.network usual) (s ++ ':' :: decimal port)
      = .ok (host, if usual = port then none else some port) := by
  have read : parseHost (.network usual) s = .ok host := by
    have notEmpty : s.isEmpty = false := List.isEmpty_eq_false_iff.2 h.ne_nil
    simp only [parseHost, Kind.isSpecial, notEmpty, Bool.false_eq_true, ↓reduceIte, h.parse_eq]
  have colon : spanHost false (':' :: decimal port) = ([], ':' :: decimal port) := rfl
  rw [parseHostPort, h.spanHost_eq colon]
  change (parseHost (.network usual) s).bind _ = _
  rw [read]
  change (if host.isEmpty = true then _ else
    (parsePort (.network usual) (decimal port)).bind fun port => .ok (host, port)) = _
  rw [h.isEmpty_eq, parsePort_decimal small]
  rfl

end WebDriverClient.Url
