/-
**Records as they are written.**

A record is recognised on the text as it is written.  As an object it may have members that the
record does not know, as long as their keys are texts, but no member that it knows may come twice.
As an array it has its first members in their order.

Main definitions:

* `Json.Written.keyed` — what stands under a key;
* `Json.Written.IsRecord` — a tree is a record with these members;
* `Json.Written.Extends` — an object has one more member than another, which a record does not know.

Main results:

* `Json.Written.record?_eq_some_iff` — **what is recognised is what is a record**;
* `Json.Written.isRecord_of_extends` — unknown members do not matter;
* `Json.Written.not_isRecord_of_repeated` — known members must not come twice.
-/

import Mathlib.Tactic.Common
import WebDriverClient.Wire.Response

set_option autoImplicit false

namespace WebDriverClient.Json.Written

variable {known : List String} {members : List (List UInt8 × Written)}

/-! ### Members of an object -/

/-- What stands under a key, in the order in which it is written. -/
def keyed (k : String) (members : List (List UInt8 × Written)) : List Written :=
  (members.filter fun m => text? m.1 = some k).map (·.2)

theorem keyed_cons (k : String) (m : List UInt8 × Written) (rest : List (List UInt8 × Written)) :
    keyed k (m :: rest) = if text? m.1 = some k then m.2 :: keyed k rest else keyed k rest := by
  unfold keyed
  rw [List.filter_cons]
  by_cases h : text? m.1 = some k
  · simp [h]
  · simp [h]

theorem keyed_append (k : String) (ms ns : List (List UInt8 × Written)) :
    keyed k (ms ++ ns) = keyed k ms ++ keyed k ns := by
  simp [keyed]

/-- The value of a known member that has been collected. -/
def collected (k : String) (found : List (String × Written)) : Option Written :=
  (found.find? (·.1 = k)).map (·.2)

theorem collected_cons (k key : String) (value : Written) (found : List (String × Written)) :
    collected k ((key, value) :: found) = if key = k then some value else collected k found := by
  unfold collected
  rw [List.find?_cons]
  by_cases h : key = k
  · simp [h]
  · simp [h]

theorem collected_eq_none_iff {k : String} {found : List (String × Written)} :
    collected k found = none ↔ found.any (·.1 = k) = false := by
  simp [collected]

/-- What is collected of the members is what stands under the known keys, which is at most one
value for each. -/
theorem keyed_of_knownMembers? {found : List (String × Written)}
    (h : knownMembers? known members = some found) :
    (∀ m ∈ members, (text? m.1).isSome = true)
      ∧ ∀ k ∈ known, keyed k members = (collected k found).toList := by
  induction members generalizing found with
  | nil =>
      obtain rfl := Option.some.inj h
      exact ⟨fun m mem => (nomatch mem), fun k mem => rfl⟩
  | cons m rest ih =>
      obtain ⟨key, value⟩ := m
      rw [knownMembers?] at h
      split at h
      next k before text read =>
        -- The members that follow have been collected first.
        obtain ⟨texts, under⟩ := ih read
        have first : (text? key).isSome = true := by rw [text]; rfl
        refine ⟨List.forall_mem_cons.2 ⟨first, texts⟩, fun k' mem => ?_⟩
        rw [keyed_cons, text, under k' mem]
        split at h
        next isKnown =>
          split at h
          next => nomatch h
          next fresh =>
            obtain rfl := Option.some.inj h
            rw [collected_cons]
            by_cases same : k = k'
            · subst same
              have absent : collected k before = none :=
                collected_eq_none_iff.2 (Bool.not_eq_true _ ▸ fresh)
              rw [if_pos rfl, if_pos rfl, absent]
              rfl
            · rw [if_neg fun eq => same (Option.some.inj eq), if_neg same]
        next unknown =>
          obtain rfl := Option.some.inj h
          have other : k ≠ k' := fun same => unknown (same ▸ mem)
          rw [if_neg fun eq => other (Option.some.inj eq)]
      next => nomatch h

/-- Members whose keys are texts, of which no known one comes twice, can be collected. -/
theorem exists_knownMembers? (texts : ∀ m ∈ members, (text? m.1).isSome = true)
    (once : ∀ k ∈ known, (keyed k members).length ≤ 1) :
    ∃ found, knownMembers? known members = some found := by
  induction members with
  | nil => exact ⟨[], rfl⟩
  | cons m rest ih =>
      obtain ⟨key, value⟩ := m
      obtain ⟨first, texts⟩ := List.forall_mem_cons.1 texts
      obtain ⟨k, text⟩ := Option.isSome_iff_exists.1 first
      have onceRest : ∀ k' ∈ known, (keyed k' rest).length ≤ 1 := by
        intro k' mem
        have here := once k' mem
        rw [keyed_cons] at here
        split at here
        next => exact Nat.le_of_succ_le here
        next => exact here
      obtain ⟨found, read⟩ := ih texts onceRest
      rw [knownMembers?, text, read]
      by_cases isKnown : k ∈ known
      · have here := once k isKnown
        rw [keyed_cons, if_pos text, (keyed_of_knownMembers? read).2 k isKnown,
          List.length_cons] at here
        -- The value here is the only one under its key.
        have absent : collected k found = none := by
          cases h : collected k found with
          | none => rfl
          | some w =>
              rw [h] at here
              nomatch Nat.le_of_succ_le_succ here
        have fresh : ¬ found.any (·.1 = k) = true :=
          Bool.not_eq_true _ ▸ collected_eq_none_iff.1 absent
        refine ⟨(k, value) :: found, ?_⟩
        simp only [if_pos isKnown, if_neg fresh]
      · refine ⟨found, ?_⟩
        simp only [if_neg isKnown]

/-! ### Records -/

/-- The tree is a record of the known members, each of which is there or is missing. -/
inductive IsRecord (known : List String) : Written → List (Option Written) → Prop where
  /-- An object: its keys are texts, and a known key stands there at most once. -/
  | object {members : List (List UInt8 × Written)}
      (texts : ∀ m ∈ members, (text? m.1).isSome = true)
      (once : ∀ k ∈ known, (keyed k members).length ≤ 1) :
      IsRecord known (.object members) (known.map fun k => (keyed k members).head?)
  /-- An array of the first members in their order. -/
  | array {items : List Written} {missing : Nat} (count : items.length + missing = known.length) :
      IsRecord known (.array items) (items.map some ++ List.replicate missing none)

theorem length_toList_le {α : Type} (a : Option α) : a.toList.length ≤ 1 := by
  cases a with
  | none => exact Nat.zero_le 1
  | some a => exact Nat.le_refl 1

/-- What is recognised as a record is one. -/
theorem record?_eq_some_iff {w : Written} {fields : List (Option Written)} :
    record? known w = some fields ↔ IsRecord known w fields := by
  have fields_eq {members : List (List UInt8 × Written)} {found : List (String × Written)}
      (under : ∀ k ∈ known, keyed k members = (collected k found).toList) :
      known.map (fun k => collected k found) = known.map fun k => (keyed k members).head? :=
    List.map_congr_left fun k mem => by rw [under k mem, Option.head?_toList]
  constructor
  · intro h
    cases w with
    | object members =>
        obtain ⟨found, read, rfl⟩ := Option.map_eq_some_iff.1 h
        obtain ⟨texts, under⟩ := keyed_of_knownMembers? read
        have once : ∀ k ∈ known, (keyed k members).length ≤ 1 := fun k mem =>
          under k mem ▸ length_toList_le _
        exact fields_eq under ▸ .object texts once
    | array items =>
        rw [record?] at h
        split at h
        next fits =>
          obtain rfl := Option.some.inj h
          exact .array (Nat.add_sub_cancel' fits)
        next => nomatch h
    | null | bool _ | number _ | string _ => nomatch h
  · intro h
    cases h with
    | @object members texts once =>
        obtain ⟨found, read⟩ := exists_knownMembers? texts once
        rw [record?, read, ← fields_eq (keyed_of_knownMembers? read).2]
        rfl
    | @array items missing count =>
        have fits : items.length ≤ known.length := count ▸ Nat.le_add_right _ _
        have left : known.length - items.length = missing := by omega
        rw [record?, if_pos fits, left]

/-! ### Members that do not matter, and members that do -/

/-- The second object has one more member than the first, under a text that is not a known key. -/
inductive Extends (known : List String) : Written → Written → Prop where
  /-- The member may stand anywhere. -/
  | member {before after : List (List UInt8 × Written)} {key : List UInt8} {k : String}
      {value : Written} (text : text? key = some k) (unknown : k ∉ known) :
      Extends known (.object (before ++ after)) (.object (before ++ (key, value) :: after))

/-- Unknown members do not matter. -/
theorem isRecord_of_extends {w w' : Written} (more : Extends known w w')
    (fields : List (Option Written)) : IsRecord known w fields ↔ IsRecord known w' fields := by
  obtain @⟨before, after, key, k, value, text, unknown⟩ := more
  have texts : (∀ m ∈ before ++ after, (text? m.1).isSome = true)
      ↔ ∀ m ∈ before ++ (key, value) :: after, (text? m.1).isSome = true := by
    have here : (text? (key, value).1).isSome = true := by rw [text]; rfl
    simp only [List.forall_mem_append, List.forall_mem_cons, here, true_and]
  have same (k' : String) (mem : k' ∈ known) :
      keyed k' (before ++ after) = keyed k' (before ++ (key, value) :: after) := by
    have other : text? (key, value).1 ≠ some k' := by
      rw [text]
      exact fun eq => unknown (Option.some.inj eq ▸ mem)
    rw [keyed_append, keyed_append, keyed_cons, if_neg other]
  have fields_eq : known.map (fun k => (keyed k (before ++ after)).head?)
      = known.map fun k => (keyed k (before ++ (key, value) :: after)).head? :=
    List.map_congr_left fun k mem => by rw [same k mem]
  constructor
  · rintro ⟨texts', once⟩
    exact fields_eq ▸ .object (texts.1 texts') fun k mem => same k mem ▸ once k mem
  · rintro ⟨texts', once⟩
    exact fields_eq ▸ .object (texts.2 texts') fun k mem => same k mem ▸ once k mem

/-- A known member must not come twice. -/
theorem not_isRecord_of_repeated {k : String} (isKnown : k ∈ known)
    (twice : 1 < (keyed k members).length) (fields : List (Option Written)) :
    ¬ IsRecord known (.object members) fields := by
  rintro ⟨-, once⟩
  exact absurd (once k isKnown) (Nat.not_le_of_lt twice)

end WebDriverClient.Json.Written
