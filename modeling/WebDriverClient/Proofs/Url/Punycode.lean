/-
**Punycode is read back.**

The encoder passes the positions of a label once for each code point, and the decoder goes where
the distances lead; both are at the same code point and at the same position whenever a number ends.
The label then stands apart at that position: of what comes before it the characters up to the code
point have been written, and of what comes after it those below the code point.  The decoder has
exactly these, and one more number puts one more character between the two parts.

Main definitions:

* `Punycode.writtenAt` — what has been written of a label at a position;
* `Punycode.Follows` — the decoder has read what the encoder has written.

Main results:

* `Punycode.foldlM_digits` — a number of varying weight is read back;
* `Punycode.Follows.pass`, `Punycode.Follows.reach` — the decoder follows the encoder;
* `Punycode.decode?_encode` — **every label is read back from its ASCII form**.
-/

import Mathlib.Data.List.Sort
import Mathlib.Tactic.Ring
import WebDriverClient.Proofs.Url.Reading

set_option autoImplicit false

namespace WebDriverClient.Url.Punycode

/-! ### Numbers -/

theorem digit?_digitChar {d : Nat} (h : d < 36) : digit? (digitChar d) = some d := by
  interval_cases d <;> rfl

/-- A digit below the threshold ends a number. -/
theorem read?_last {r : Reading} {d : Nat} (h : d < threshold r.weight r.bias) :
    r.read? (digitChar d) = r.insert? (r.delta + d * r.factor) := by
  have bounds := threshold_bounds r.weight r.bias
  rw [Reading.read?, digit?_digitChar (by omega)]
  exact if_pos h

/-- Any other digit is added to the number. -/
theorem read?_more {r : Reading} {d : Nat} (h : threshold r.weight r.bias ≤ d) (digit : d < 36) :
    r.read? (digitChar d) = some { r with
      delta := r.delta + d * r.factor
      factor := r.factor * (36 - threshold r.weight r.bias)
      weight := r.weight + 36 } := by
  rw [Reading.read?, digit?_digitChar digit]
  exact if_neg (Nat.not_lt_of_le h)

/-- A number is read from its digits.  The distance that has been read, the factor and the weight
come from the digits before. -/
theorem foldlM_digits (r : Reading) (q : Nat) :
    (digits r.bias r.weight q).foldlM Reading.read? r = r.insert? (r.delta + q * r.factor) := by
  obtain ⟨output, reached, position, bias, delta, factor, weight⟩ := r
  dsimp only
  induction weight, q using digits.induct bias generalizing delta factor with
  | case1 weight q t last =>
      rw [digits, if_pos last, List.foldlM_cons, read?_last last]
      exact bind_pure _
  | case2 weight q t more ih =>
      have bounds := threshold_bounds weight bias
      have room := Nat.mod_lt (q - t) (show 0 < 36 - t by omega)
      have digit : t + (q - t) % (36 - t) < 36 := by omega
      rw [digits, if_neg more, List.foldlM_cons, read?_more (Nat.le_add_right _ _) digit]
      refine (ih _ _).trans (congrArg _ ?_)
      change delta + (t + (q - t) % (36 - t)) * factor + (q - t) / (36 - t) * (factor * (36 - t)) = _
      have value : t + (q - t) % (36 - t) + (q - t) / (36 - t) * (36 - t) = q := by
        have cut := Nat.mod_add_div' (q - t) (36 - t)
        omega
      calc delta + (t + (q - t) % (36 - t)) * factor + (q - t) / (36 - t) * (factor * (36 - t))
          = delta + (t + (q - t) % (36 - t) + (q - t) / (36 - t) * (36 - t)) * factor := by ring
        _ = delta + q * factor := by rw [value]

/-! ### Positions of a label -/

/-- The characters up to a code point. -/
def upTo (m : Nat) (s : List Char) : List Char := s.filter (·.toNat ≤ m)

/-- The characters below a code point. -/
def below (m : Nat) (s : List Char) : List Char := s.filter (·.toNat < m)

/-- The decoder has read what the encoder has written when it is at a code point, between `before`
and `after`. -/
structure Follows (basic : Nat) (before after : List Char) (m : Nat) (w : Writing) (r : Reading) :
    Prop where
  /-- The encoder is at the code point. -/
  here : w.reached = m
  /-- The decoder is not past it. -/
  behind : r.reached ≤ m
  /-- The decoder has the characters that have been written. -/
  output : r.output = upTo m before ++ below m after
  /-- As many characters have been written. -/
  written : w.written = r.output.length
  /-- The characters of ASCII are among them. -/
  least : basic ≤ w.written
  /-- The distance leads from the place of the decoder to the code point and the position. -/
  distance : r.position + w.delta =
    (m - r.reached) * (r.output.length + 1) + (upTo m before).length
  /-- The decoder has not moved as long as there are no others. -/
  moved : r.position = 0 ↔ w.written = basic
  bias : r.bias = w.bias
  /-- A number has ended. -/
  ended : r.delta = 0 ∧ r.factor = 1 ∧ r.weight = 36

variable {basic m : Nat} {before after : List Char} {w : Writing} {start r : Reading} {c : Char}

theorem upTo_concat_of_le (h : c.toNat ≤ m) : upTo m (before ++ [c]) = upTo m before ++ [c] := by
  simp [upTo, h]

theorem upTo_concat_of_lt (h : m < c.toNat) : upTo m (before ++ [c]) = upTo m before := by
  simp [upTo, h]

theorem below_cons_of_lt (h : c.toNat < m) : below m (c :: after) = c :: below m after := by
  simp [below, h]

theorem below_cons_of_le (h : m ≤ c.toNat) : below m (c :: after) = below m after := by
  simp [below, h]

/-- The character that has been reached is put into its place. -/
theorem Follows.insert?_eq (h : Follows basic before (c :: after) c.toNat w r) :
    r.insert? w.delta = some {
      output := upTo c.toNat before ++ c :: below c.toNat after
      reached := c.toNat
      position := (upTo c.toNat before).length + 1
      bias := adapt w.delta (w.written + 1) (w.written = basic) } := by
  have output := h.output
  rw [below_cons_of_le (Nat.le_refl _)] at output
  have within : (upTo c.toNat before).length < r.output.length + 1 := by
    rw [output, List.length_append]
    omega
  have place : (r.position + w.delta) % (r.output.length + 1) = (upTo c.toNat before).length := by
    rw [h.distance, Nat.mul_comm, Nat.mul_add_mod, Nat.mod_eq_of_lt within]
  have code : r.reached + (r.position + w.delta) / (r.output.length + 1) = c.toNat := by
    have behind := h.behind
    rw [h.distance, Nat.mul_comm, Nat.mul_add_div (by omega), Nat.div_eq_of_lt within]
    omega
  have valid : c.toNat.isValidChar := c.valid
  have first : decide (r.position = 0) = decide (w.written = basic) := decide_eq_decide.2 h.moved
  simp only [Reading.insert?, place, code, if_pos valid, Char.ofNat_toNat, first, h.written]
  rw [output, List.take_left, List.drop_left]

/-- The decoder has the character that has been reached, and is behind it. -/
theorem Follows.insert (h : Follows basic before (c :: after) c.toNat w r) :
    Follows basic (before ++ [c]) after c.toNat
      { w with
        output := (digits w.bias 36 w.delta).reverse ++ w.output
        bias := adapt w.delta (w.written + 1) (w.written = basic)
        delta := 0
        written := w.written + 1 }
      { output := upTo c.toNat before ++ c :: below c.toNat after
        reached := c.toNat
        position := (upTo c.toNat before).length + 1
        bias := adapt w.delta (w.written + 1) (w.written = basic) } where
  here := h.here
  behind := Nat.le_refl _
  output := by rw [upTo_concat_of_le (Nat.le_refl _), List.append_assoc, List.singleton_append]
  written := by
    have output := h.output
    rw [below_cons_of_le (Nat.le_refl _)] at output
    rw [h.written, output]
    simp only [List.length_append, List.length_cons]
    rfl
  least := Nat.le_succ_of_le h.least
  distance := by
    dsimp only
    rw [upTo_concat_of_le (Nat.le_refl _), Nat.sub_self, Nat.zero_mul, Nat.zero_add, Nat.add_zero]
    simp
  moved := by
    have least := h.least
    dsimp only
    omega
  bias := rfl
  ended := ⟨rfl, rfl, rfl⟩

/-- The digits of the distance are read. -/
theorem Follows.reads_insert (h : Follows basic before (c :: after) c.toNat w r)
    (reads : w.output.reverse.foldlM Reading.read? start = some r) :
    ((digits w.bias 36 w.delta).reverse ++ w.output).reverse.foldlM Reading.read? start
      = r.insert? w.delta := by
  obtain ⟨delta, factor, weight⟩ := h.ended
  have number := foldlM_digits r w.delta
  rw [h.bias, delta, factor, weight, Nat.zero_add, Nat.mul_one] at number
  rw [List.reverse_append, List.reverse_reverse, List.foldlM_append, reads]
  exact number

/-- The decoder follows the encoder past a position. -/
theorem Follows.pass (h : Follows basic before (c :: after) m w r)
    (reads : w.output.reverse.foldlM Reading.read? start = some r) :
    ∃ r', Follows basic (before ++ [c]) after m (w.pass basic c) r' ∧
      (w.pass basic c).output.reverse.foldlM Reading.read? start = some r' := by
  obtain rfl := h.here
  unfold Writing.pass
  split
  next less =>
    refine ⟨r, { h with output := ?_, distance := ?_ }, reads⟩
    · rw [h.output, upTo_concat_of_le (Nat.le_of_lt less), below_cons_of_lt less, List.append_assoc]
      rfl
    · rw [upTo_concat_of_le (Nat.le_of_lt less), List.length_append, List.length_singleton]
      exact congrArg (· + 1) h.distance
  next notLess =>
    split
    next same =>
      rw [← same] at h
      have inserted := h.insert
      have read := (h.reads_insert reads).trans h.insert?_eq
      rw [same] at inserted read
      exact ⟨_, inserted, read⟩
    next other =>
      have more : w.reached < c.toNat := by omega
      refine ⟨r, { h with output := ?_, distance := ?_ }, reads⟩
      · rw [h.output, upTo_concat_of_lt more, below_cons_of_le (Nat.le_of_lt more)]
      · rw [h.distance, upTo_concat_of_lt more]

/-- The decoder follows the encoder past all positions. -/
theorem Follows.passAll (h : Follows basic before after m w r)
    (reads : w.output.reverse.foldlM Reading.read? start = some r) :
    ∃ r', Follows basic (before ++ after) [] m (after.foldl (Writing.pass basic) w) r' ∧
      (after.foldl (Writing.pass basic) w).output.reverse.foldlM Reading.read? start = some r' := by
  induction after generalizing before w r with
  | nil => exact ⟨r, (List.append_nil before).symm ▸ h, reads⟩
  | cons c after ih =>
      obtain ⟨r', follows, reads⟩ := h.pass reads
      obtain ⟨last, follows, reads⟩ := ih follows reads
      rw [List.append_assoc] at follows
      exact ⟨last, follows, reads⟩

/-! ### Code points of a label -/

variable {label : List Char} {n : Nat}

/-- The decoder is where the encoder is before it starts to pass a label. -/
theorem Follows.goTo (h : Follows basic [] label m w r) (more : m ≤ n)
    (none : ∀ c ∈ label, m ≤ c.toNat → n ≤ c.toNat) :
    Follows basic [] label n
      { w with delta := w.delta + (n - w.reached) * (w.written + 1), reached := n } r := by
  have same : below n label = below m label := by
    refine List.filter_congr fun c mem => ?_
    have far := none c mem
    rw [decide_eq_decide]
    omega
  have distance := h.distance
  have written := h.written
  have behind := h.behind
  refine { h with here := rfl, behind := Nat.le_trans behind more, output := ?_, distance := ?_ }
  · rw [same]
    exact h.output
  · dsimp only
    rw [h.here, ← Nat.add_assoc, distance, h.written]
    have cut : n - r.reached = (n - m) + (m - r.reached) := by omega
    rw [cut, Nat.add_mul]
    simp only [upTo, List.filter_nil, List.length_nil]
    omega

/-- After the last position the encoder goes on to the next code point. -/
theorem Follows.goOn (h : Follows basic label [] n w r) :
    Follows basic [] label (n + 1) { w with delta := w.delta + 1, reached := n + 1 } r := by
  have all : upTo n label = below (n + 1) label := by
    refine List.filter_congr fun c _ => ?_
    rw [decide_eq_decide]
    omega
  have output := h.output
  have distance := h.distance
  have behind := h.behind
  rw [below, List.filter_nil, List.append_nil] at output
  refine { h with here := rfl, behind := Nat.le_succ_of_le behind, output := ?_, distance := ?_ }
  · exact output.trans all
  · dsimp only
    have cut : n + 1 - r.reached = (n - r.reached) + 1 := by omega
    rw [cut, Nat.add_mul, ← output] at *
    simp only [upTo, List.filter_nil, List.length_nil]
    omega

/-- The decoder follows the encoder to a code point and past all positions. -/
theorem Follows.reach (h : Follows basic [] label m w r) (more : m ≤ n)
    (none : ∀ c ∈ label, m ≤ c.toNat → n ≤ c.toNat)
    (reads : w.output.reverse.foldlM Reading.read? start = some r) :
    ∃ r', Follows basic [] label (n + 1) (w.reach basic label n) r' ∧
      (w.reach basic label n).output.reverse.foldlM Reading.read? start = some r' := by
  obtain ⟨r', follows, reads⟩ := (h.goTo more none).passAll reads
  exact ⟨r', follows.goOn, reads⟩

/-- The decoder follows the encoder through all code points from one on. -/
theorem Follows.reachAll {ns : List Nat} (h : Follows basic [] label m w r)
    (ascends : ns.Pairwise (· < ·)) (ahead : ∀ n ∈ ns, m ≤ n)
    (all : ∀ c ∈ label, m ≤ c.toNat → c.toNat ∈ ns)
    (reads : w.output.reverse.foldlM Reading.read? start = some r) :
    ∃ m' r', (∀ c ∈ label, c.toNat < m') ∧
      Follows basic [] label m' (ns.foldl (Writing.reach basic label) w) r' ∧
      (ns.foldl (Writing.reach basic label) w).output.reverse.foldlM Reading.read? start
        = some r' := by
  induction ns generalizing m w r with
  | nil =>
      refine ⟨m, r, fun c mem => Nat.lt_of_not_le fun more => ?_, h, reads⟩
      cases all c mem more
  | cons n ns ih =>
      obtain ⟨above, ascends⟩ := List.pairwise_cons.1 ascends
      obtain ⟨more, -⟩ := List.forall_mem_cons.1 ahead
      have none : ∀ c ∈ label, m ≤ c.toNat → n ≤ c.toNat := by
        intro c mem far
        rcases List.mem_cons.1 (all c mem far) with same | later
        · exact Nat.le_of_eq same.symm
        · exact Nat.le_of_lt (above _ later)
      obtain ⟨r', follows, reads⟩ := h.reach more none reads
      refine ih follows ascends above (fun c mem far => ?_) reads
      have listed := all c mem (Nat.le_trans more (Nat.le_of_lt far))
      exact (List.mem_cons.1 listed).resolve_left (Nat.ne_of_gt far)

/-! ### The order of the code points -/

/-- A sorted list without repetitions, its first element given. -/
theorem exists_eraseReps {as : List Nat} {a : Nat} (sorted : (a :: as).Pairwise (· ≤ ·))
    (acc : List Nat) :
    ∃ rest, List.eraseRepsBy.loop (· == ·) a as acc = acc.reverse ++ a :: rest ∧
      (a :: rest).Pairwise (· < ·) ∧ ∀ n, n ∈ a :: rest ↔ n ∈ a :: as := by
  induction as generalizing a acc with
  | nil => exact ⟨[], List.reverse_cons, List.pairwise_singleton _ _, fun n => Iff.rfl⟩
  | cons b as ih =>
      obtain ⟨least, sorted'⟩ := List.pairwise_cons.1 sorted
      rw [List.eraseRepsBy.loop]
      split
      next same =>
        obtain rfl : a = b := eq_of_beq same
        obtain ⟨rest, eq, ascends, mem⟩ := ih sorted' acc
        refine ⟨rest, eq, ascends, fun n => (mem n).trans ?_⟩
        simp
      next other =>
        have different : a ≠ b := by simpa using other
        obtain ⟨rest, eq, ascends, mem⟩ := ih sorted' (a :: acc)
        refine ⟨b :: rest, ?_, List.pairwise_cons.2 ⟨fun n here => ?_, ascends⟩, fun n => ?_⟩
        · rw [eq, List.reverse_cons, List.append_assoc, List.singleton_append]
        · have below := least n ((mem n).1 here)
          have next := least b List.mem_cons_self
          rcases List.mem_cons.1 here with rfl | later
          · exact Nat.lt_of_le_of_ne next different
          · have after := (List.pairwise_cons.1 ascends).1 n later
            exact Nat.lt_of_le_of_lt next after
        · rw [List.mem_cons, mem n, ← List.mem_cons]

/-- A sorted list without repetitions has the same elements, each once. -/
theorem eraseReps_spec {l : List Nat} (sorted : l.Pairwise (· ≤ ·)) :
    l.eraseReps.Pairwise (· < ·) ∧ ∀ n, n ∈ l.eraseReps ↔ n ∈ l := by
  cases l with
  | nil => exact ⟨List.Pairwise.nil, fun n => Iff.rfl⟩
  | cons a as =>
      obtain ⟨rest, erased, ascends, mem⟩ := exists_eraseReps sorted []
      rw [List.eraseReps, List.eraseRepsBy, erased]
      exact ⟨ascends, mem⟩

/-- The code points outside of ASCII are listed in their order. -/
theorem extended_spec (label : List Char) :
    (extended label).Pairwise (· < ·) ∧ (∀ n ∈ extended label, 0x80 ≤ n) ∧
      ∀ c ∈ label, 0x80 ≤ c.toNat → c.toNat ∈ extended label := by
  have sorted := List.pairwise_mergeSort' (· ≤ ·) ((label.map Char.toNat).filter (0x80 ≤ ·))
  obtain ⟨ascends, mem⟩ := eraseReps_spec sorted
  have listed (n : Nat) : n ∈ extended label ↔ n ∈ label.map Char.toNat ∧ 0x80 ≤ n := by
    rw [extended, mem, List.mem_mergeSort, List.mem_filter, decide_eq_true_eq]
  exact ⟨ascends, fun n here => ((listed n).1 here).2, fun c here far =>
    (listed c.toNat).2 ⟨List.mem_map_of_mem here, far⟩⟩

/-! ### Labels -/

/-- A form is cut at its last hyphen, if there is one. -/
theorem decode?_form {basic digits : List Char} (ascii : ∀ c ∈ basic, c.toNat < 0x80)
    (noHyphen : ∀ c ∈ digits, c ≠ '-') :
    decode? (basic ++ (if basic.isEmpty then [] else ['-']) ++ digits)
      = (digits.foldlM Reading.read? { output := basic }).bind fun r =>
          if r.weight = 36 then some r.output else none := by
  have inside : ∀ c ∈ digits.reverse, decide (c ≠ '-') = true := fun c mem =>
    decide_eq_true (noHyphen c (List.mem_reverse.1 mem))
  -- Read from its end, the form goes on with the hyphen or is over after the digits.
  have cut : ∃ after, (basic ++ (if basic.isEmpty then [] else ['-']) ++ digits).reverse
      = digits.reverse ++ after ∧ (after.drop 1).reverse = basic ∧
        ∀ c ∈ after.head?, decide (c ≠ '-') = false := by
    cases basic with
    | nil => exact ⟨[], (List.append_nil _).symm, rfl, fun c mem => nomatch mem⟩
    | cons c cs =>
        refine ⟨'-' :: (c :: cs).reverse, ?_, List.reverse_reverse _, ?_⟩
        · simp
        · rintro d ⟨⟩
          rfl
  obtain ⟨after, reversed, before, ends⟩ := cut
  obtain ⟨front, back⟩ := span_append inside ends
  have allAscii : basic.all (fun c => decide (c.toNat < 0x80)) = true :=
    List.all_eq_true.2 fun c mem => decide_eq_true (ascii c mem)
  simp only [decode?, reversed, front, back, before, List.reverse_reverse, allAscii, guard_true]
  rfl

/-- Before the first number the decoder has the characters of ASCII. -/
theorem follows_start (label : List Char) :
    Follows (below 0x80 label).length [] label 0x80 { written := (below 0x80 label).length }
      { output := below 0x80 label } where
  here := rfl
  behind := Nat.le_refl _
  output := rfl
  written := rfl
  least := Nat.le_refl _
  distance := by simp [upTo]
  moved := ⟨fun _ => rfl, fun _ => rfl⟩
  bias := rfl
  ended := ⟨rfl, rfl, rfl⟩

/-- A label is read back from its ASCII form. -/
theorem decode?_encode (label : List Char) : decode? (encode label) = some label := by
  obtain ⟨ascends, above, listed⟩ := extended_spec label
  obtain ⟨m, r, all, follows, reads⟩ := (follows_start label).reachAll ascends above listed rfl
  have output : r.output = label := by
    rw [follows.output, upTo, below, List.filter_nil, List.nil_append]
    exact List.filter_eq_self.2 fun c mem => decide_eq_true (all c mem)
  have ascii : ∀ c ∈ below 0x80 label, c.toNat < 0x80 := fun c mem =>
    of_decide_eq_true (List.mem_filter.1 mem).2
  have noHyphen : ∀ c ∈ ((extended label).foldl (Writing.reach (below 0x80 label).length label)
      { written := (below 0x80 label).length }).output.reverse, c ≠ '-' := by
    rintro c mem rfl
    exact absurd (isCodeChar_reachAll _ _ _ _ _ (List.mem_reverse.1 mem)) (by decide)
  have form := decode?_form ascii noHyphen
  rw [reads, Option.bind_some, if_pos follows.ended.2.2, output] at form
  exact form

/-! ### What is put into a label -/

/-- The characters that have been put between those of `basic` are not of ASCII. -/
structure Reading.Extends (basic : List Char) (r : Reading) : Prop where
  /-- ASCII has been passed. -/
  reached : 0x80 ≤ r.reached
  /-- Nothing else has been put between them. -/
  output : ∀ c ∈ r.output, c ∈ basic ∨ 0x80 ≤ c.toNat

theorem Reading.Extends.insert? {basic : List Char} {r r' : Reading} {delta : Nat}
    (h : r.Extends basic) (inserted : r.insert? delta = some r') : r'.Extends basic := by
  simp only [Reading.insert?, Option.ite_none_right_eq_some] at inserted
  obtain ⟨valid, same⟩ := inserted
  obtain rfl := Option.some.inj same
  have passed := Nat.le_trans h.reached
    (Nat.le_add_right r.reached ((r.position + delta) / (r.output.length + 1)))
  refine ⟨passed, ?_⟩
  simp only [List.forall_mem_append, List.forall_mem_cons]
  refine ⟨fun c mem => h.output c (List.mem_of_mem_take mem), .inr ?_,
    fun c mem => h.output c (List.mem_of_mem_drop mem)⟩
  rwa [Char.ofNat, dif_pos valid]

theorem Reading.Extends.read? {basic : List Char} {r r' : Reading} {c : Char}
    (h : r.Extends basic) (read : r.read? c = some r') : r'.Extends basic := by
  obtain ⟨d, -, read⟩ := Option.bind_eq_some_iff.1 read
  dsimp only at read
  split at read
  next => exact h.insert? read
  next =>
    obtain rfl := Option.some.inj read
    exact ⟨h.reached, h.output⟩

/-- A label has the ASCII characters of its form and others that are not of ASCII. -/
theorem mem_of_decode? {s label : List Char} (h : decode? s = some label) :
    ∀ c ∈ label, c ∈ s ∨ 0x80 ≤ c.toNat := by
  obtain ⟨-, -, h⟩ := Option.bind_eq_some_iff.1 h
  obtain ⟨r, reads, h⟩ := Option.bind_eq_some_iff.1 h
  obtain ⟨-, same⟩ := Option.ite_none_right_eq_some.1 h
  obtain rfl := Option.some.inj same
  have kept (basic : List Char) (start : Reading) (h : start.Extends basic) (digits : List Char)
      (reads : digits.foldlM Reading.read? start = some r) : r.Extends basic := by
    induction digits generalizing start with
    | nil => exact Option.some.inj reads ▸ h
    | cons c digits ih =>
        obtain ⟨next, read, reads⟩ := Option.bind_eq_some_iff.1 reads
        exact ih next (h.read? read) reads
  have extends_ := kept _ _ ⟨Nat.le_refl _, fun c mem => .inl mem⟩ _ reads
  intro c mem
  refine (extends_.output c mem).imp_left fun basic => ?_
  have inside := List.mem_of_mem_drop (List.mem_reverse.1 basic)
  exact List.mem_reverse.1 ((List.dropWhile_sublist _).subset inside)

end WebDriverClient.Url.Punycode
