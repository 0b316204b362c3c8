/-
**Tables of code points as sets of bits.**

A table is read from its text entry by entry, so that what it says can be decided by evaluating it.
To go through a table for each entry of another would take too long; a set of code points is
therefore a number, whose bits tell which code points belong to it.  A few operations on numbers
then compare whole tables.

Main definitions:

* `Table.entriesFrom` — the entries of a table, each as soon as it has been read;
* `Table.bitsOf`, `Table.rangeBits`, `Table.unionBits` — sets of code points.

Main results:

* `Table.entries_ofList` — the entries of a table, one after another;
* `Table.contains_of_lt`, `Table.find?_of_lt` — what comes before all entries is not in a table;
* `Table.testBit_bitsOf`, `Table.testBit_rangeBits`, `Table.testBit_unionBits` — what belongs to
  a set.
-/

import Mathlib.Data.Nat.Bitwise
import WebDriverClient.Text.Table

set_option autoImplicit false

namespace WebDriverClient.Table

/-! ### Reading tables entry by entry -/

/-- The numbers of an entry; those that are complete are given in reverse. -/
def entryOf (current : List Nat) (number : Option Nat) : List Nat :=
  (number.toList ++ current).reverse

/-- The entries of the rest of a table, where `current` and `number` have been read of the first. -/
def entriesFrom (current : List Nat) (number : Option Nat) : List Char → List (List Nat)
  | [] => if (entryOf current number).isEmpty then [] else [entryOf current number]
  | c :: rest =>
    if c = ' ' then entriesFrom (number.toList ++ current) none rest
    else if c = ';' || c = '\n' then
      if (entryOf current number).isEmpty then entriesFrom [] none rest
      else entryOf current number :: entriesFrom [] none rest
    else entriesFrom current (some (number.getD 0 * 16 + digit c)) rest

theorem Reading.endNumber_eq (r : Reading) :
    r.endNumber = { r with current := r.number.toList ++ r.current, number := none } := by
  obtain ⟨entries, current, _ | n⟩ := r <;> rfl

theorem Reading.endEntry_eq (r : Reading) :
    r.endEntry = { r with
      entries := (if (entryOf r.current r.number).isEmpty then [] else
        [entryOf r.current r.number]) ++ r.entries
      current := [], number := none } := by
  have empty : (entryOf r.current r.number).isEmpty = (r.number.toList ++ r.current).isEmpty := by
    rw [entryOf, List.isEmpty_reverse]
  rw [endEntry, endNumber_eq, empty]
  dsimp only
  split
  next h => rw [List.isEmpty_iff.1 h, List.nil_append]
  next => rfl

/-- What is read from some point on comes after what has been read. -/
theorem entries_foldl (r : Reading) (cs : List Char) :
    (cs.foldl Reading.read r).endEntry.entries.reverse
      = r.entries.reverse ++ entriesFrom r.current r.number cs := by
  induction cs generalizing r with
  | nil =>
      rw [List.foldl_nil, Reading.endEntry_eq, entriesFrom]
      split <;> simp
  | cons c rest ih =>
      rw [List.foldl_cons, ih, entriesFrom, Reading.read]
      split
      next => rw [Reading.endNumber_eq]
      next =>
        split
        next =>
          rw [Reading.endEntry_eq]
          split <;> simp
        next => rfl

/-- The entries of a table, one after another. -/
theorem entries_ofList (cs : List Char) :
    entries (String.ofList cs) = entriesFrom [] none cs := by
  rw [entries, String.toList_ofList, entries_foldl]
  rfl

/-! ### Code points before all entries -/

theorem headD_le_of_inRange {n : Nat} {entry : List Nat} (h : inRange n entry = true) :
    entry.headD 0 ≤ n := by
  unfold inRange at h
  split at h
  next a => exact Nat.le_of_eq (of_decide_eq_true h).symm
  next first last =>
    rw [Bool.and_eq_true, decide_eq_true_eq] at h
    exact h.1
  next => cases h

theorem headD_le_of_valueAt? {n value : Nat} {entry : List Nat}
    (h : valueAt? n entry = some value) : entry.headD 0 ≤ n := by
  unfold valueAt? at h
  split at h
  next a _ =>
    obtain ⟨same, -⟩ := Option.ite_none_right_eq_some.1 h
    exact Nat.le_of_eq same.symm
  next first last _ =>
    obtain ⟨within, -⟩ := Option.ite_none_right_eq_some.1 h
    rw [Bool.and_eq_true, decide_eq_true_eq] at within
    exact within.1
  next => cases h

section Above

variable {table : List (List Nat)} {bound n : Nat}
  (above : table.all (fun entry => decide (bound ≤ entry.headD 0)) = true) (h : n < bound)

include above h

/-- A table does not hold what comes before all its entries. -/
theorem contains_of_lt : contains table n = false := by
  rw [contains, List.any_eq_false]
  intro entry mem within
  have below := headD_le_of_inRange within
  have above := of_decide_eq_true (List.all_eq_true.1 above entry mem)
  omega

/-- A table has no value for what comes before all its entries. -/
theorem find?_of_lt : find? table n = none := by
  rw [find?, List.findSome?_eq_none_iff]
  intro entry mem
  rw [Option.eq_none_iff_forall_ne_some]
  intro value here
  have below := headD_le_of_valueAt? here
  have above := of_decide_eq_true (List.all_eq_true.1 above entry mem)
  omega

end Above

/-! ### Sets of code points -/

/-- The set of some code points. -/
def bitsOf (ns : List Nat) : Nat := ns.foldr (fun n bits => 1 <<< n ||| bits) 0

/-- The set of so many code points from the first on. -/
def blockBits (first count : Nat) : Nat := (1 <<< count - 1) <<< first

/-- The set of a range of code points. -/
def rangeBits (first last : Nat) : Nat := blockBits first (last + 1 - first)

/-- The union of the sets of the entries of a table. -/
def unionBits (bits : List Nat → Nat) (table : List (List Nat)) : Nat :=
  table.foldr (fun entry union => bits entry ||| union) 0

theorem testBit_one_shiftLeft (m n : Nat) : (1 <<< m).testBit n = decide (m = n) := by
  rw [Nat.one_shiftLeft, Nat.testBit_two_pow]

theorem testBit_bitsOf (ns : List Nat) (n : Nat) : (bitsOf ns).testBit n = true ↔ n ∈ ns := by
  induction ns with
  | nil => simp [bitsOf]
  | cons m ns ih =>
      rw [bitsOf, List.foldr_cons, Nat.testBit_lor, testBit_one_shiftLeft, Bool.or_eq_true,
        List.mem_cons, decide_eq_true_eq, eq_comm, ← ih]
      rfl

theorem testBit_blockBits (first count n : Nat) :
    (blockBits first count).testBit n = decide (first ≤ n ∧ n < first + count) := by
  rw [blockBits, Nat.testBit_shiftLeft, Nat.one_shiftLeft, Nat.testBit_two_pow_sub_one,
    ← Bool.decide_and, decide_eq_decide]
  omega

theorem testBit_rangeBits (first last n : Nat) :
    (rangeBits first last).testBit n = decide (first ≤ n ∧ n ≤ last) := by
  rw [rangeBits, testBit_blockBits, decide_eq_decide]
  omega

theorem testBit_unionBits (bits : List Nat → Nat) (table : List (List Nat)) (n : Nat) :
    (unionBits bits table).testBit n = table.any fun entry => (bits entry).testBit n := by
  induction table with
  | nil => exact Nat.zero_testBit n
  | cons entry table ih =>
      rw [unionBits, List.foldr_cons, Nat.testBit_lor, List.any_cons, ← ih]
      rfl

/-- The set of the code points of an entry of a table of ranges. -/
def entryBits : List Nat → Nat
  | [a] => rangeBits a a
  | [first, last] => rangeBits first last
  | _ => 0

theorem testBit_entryBits (entry : List Nat) (n : Nat) :
    (entryBits entry).testBit n = inRange n entry := by
  match entry with
  | [] => exact Nat.zero_testBit n
  | [a] =>
      rw [entryBits, inRange, testBit_rangeBits, decide_eq_decide]
      omega
  | [first, last] => rw [entryBits, inRange, testBit_rangeBits, Bool.decide_and]
  | _ :: _ :: _ :: _ => exact Nat.zero_testBit n

/-- The set of the code points of a table of ranges. -/
theorem testBit_unionBits_entryBits (table : List (List Nat)) (n : Nat) :
    (unionBits entryBits table).testBit n = contains table n := by
  rw [testBit_unionBits, contains]
  exact congrArg table.any (funext fun entry => testBit_entryBits entry n)

/-- Sets without a common element. -/
theorem not_testBit_of_land {a b n : Nat} (disjoint : a &&& b = 0) (h : a.testBit n = true) :
    b.testBit n = false := by
  have both := congrArg (Nat.testBit · n) disjoint
  simpa [Nat.testBit_land, h] using both

end WebDriverClient.Table
