/-
**Members of objects.**

An object keeps its members sorted, so that what has been put in is found by looking through a list
that is in another order.  As long as no key comes twice, a member is found exactly where it was put
in, and a decoder of a record sees the members as they were listed.

Main definitions:

* `Json.Fields.Accepts` — what is found under the keys passes the checks of a record and puts a
  value together.

Main results:

* `Json.find?_insert`, `Json.get?_ofMembers` — what is found in an object;
* `Json.get?_presentMembers` — what is found of members that may be absent;
* `Json.Fields.Accepts.seq` and one result for each kind of field — the members of a record field
  by field;
* `Json.Fields.decode_ofMembers`, `Json.Fields.decode_presentMembers` — **a record is decoded to
  the value that its members put together**.
-/

import Mathlib.Tactic.Common
import WebDriverClient.Proofs.Outcome
import WebDriverClient.Wire.Values

set_option autoImplicit false

namespace WebDriverClient

namespace Json

/-! ### Finding members -/

@[simp] theorem find?_nil (k : String) : find? k [] = none := rfl

theorem find?_cons (k key : String) (value : Json) (members : List (String × Json)) :
    find? k ((key, value) :: members) = if key = k then some value else find? k members := by
  rw [find?, List.find?_cons]
  by_cases h : key = k
  · simp [h]
  · simp [h, find?]

theorem find?_insert (k key : String) (value : Json) (members : List (String × Json)) :
    find? k (insert key value members) = if key = k then some value else find? k members := by
  induction members with
  | nil => rw [insert, find?_cons]
  | cons m rest ih =>
      obtain ⟨l, v⟩ := m
      rw [insert]
      split
      next same =>
        subst same
        rw [find?_cons, find?_cons]
        split <;> rfl
      next other =>
        split
        · rw [find?_cons]
        · rw [find?_cons, ih, find?_cons]
          split
          next h =>
            subst h
            rw [if_neg other]
          next => rfl

theorem mem_insert {m : String × Json} {key : String} {value : Json}
    {members : List (String × Json)} (h : m ∈ insert key value members) :
    m = (key, value) ∨ m ∈ members := by
  induction members with
  | nil => exact Or.inl (List.mem_singleton.1 h)
  | cons n rest ih =>
      obtain ⟨l, v⟩ := n
      rw [insert] at h
      split at h
      · exact (List.mem_cons.1 h).imp_right fun h => List.mem_cons_of_mem _ h
      · split at h
        · exact List.mem_cons.1 h
        · rcases List.mem_cons.1 h with h | h
          · exact Or.inr (h ▸ List.mem_cons_self)
          · exact (ih h).imp_right fun h => List.mem_cons_of_mem _ h

theorem find?_eq_none {k : String} {members : List (String × Json)}
    (h : k ∉ members.map (·.1)) : find? k members = none := by
  induction members with
  | nil => rfl
  | cons m rest ih =>
      rw [List.map_cons, List.mem_cons, not_or] at h
      rw [find?_cons, if_neg (Ne.symm h.1), ih h.2]

/-- Among members whose keys are different, each is found under its key. -/
theorem find?_of_mem {m : String × Json} {members : List (String × Json)}
    (nodup : (members.map (·.1)).Nodup) (h : m ∈ members) : find? m.1 members = some m.2 := by
  induction members with
  | nil => nomatch h
  | cons n rest ih =>
      obtain ⟨fresh, nodup⟩ := List.nodup_cons.1 nodup
      rw [find?_cons]
      rcases List.mem_cons.1 h with rfl | h
      · rw [if_pos rfl]
      · have other : n.1 ≠ m.1 := fun same => fresh (List.mem_map.2 ⟨m, h, same.symm⟩)
        rw [if_neg other, ih nodup h]

/-! ### Objects -/

/-- The members of an object in the order in which it keeps them. -/
def sorted (members : List (String × Json)) : List (String × Json) :=
  members.foldl (fun sorted m => insert m.1 m.2 sorted) []

theorem ofMembers_eq (members : List (String × Json)) :
    ofMembers members = .object (sorted members) := rfl

/-- What is found after members have been put into others; the invariant of the fold. -/
theorem find?_foldl_insert (k : String) (members before : List (String × Json))
    (nodup : (members.map (·.1)).Nodup) :
    find? k (members.foldl (fun sorted m => insert m.1 m.2 sorted) before)
      = (find? k members).or (find? k before) := by
  induction members generalizing before with
  | nil => rfl
  | cons m rest ih =>
      obtain ⟨fresh, nodup⟩ := List.nodup_cons.1 nodup
      rw [List.foldl_cons, ih _ nodup, find?_insert, find?_cons]
      by_cases h : m.1 = k
      · -- The key does not come again, so the later members do not replace this one.
        have absent : find? k rest = none := find?_eq_none (h ▸ fresh)
        rw [if_pos h, if_pos h, absent]
        rfl
      · rw [if_neg h, if_neg h]

theorem find?_sorted (k : String) {members : List (String × Json)}
    (nodup : (members.map (·.1)).Nodup) : find? k (sorted members) = find? k members := by
  rw [sorted, find?_foldl_insert k members [] nodup, find?_nil, Option.or_none]

theorem get?_ofMembers (k : String) {members : List (String × Json)}
    (nodup : (members.map (·.1)).Nodup) : get? k (ofMembers members) = find? k members :=
  find?_sorted k nodup

theorem mem_foldl_insert {m : String × Json} {members before : List (String × Json)}
    (h : m ∈ members.foldl (fun sorted m => insert m.1 m.2 sorted) before) :
    m ∈ members ∨ m ∈ before := by
  induction members generalizing before with
  | nil => exact Or.inr h
  | cons n rest ih =>
      rcases ih h with h | h
      · exact Or.inl (List.mem_cons_of_mem _ h)
      · rcases mem_insert h with h | h
        · exact Or.inl (h ▸ List.mem_cons_self)
        · exact Or.inr h

theorem mem_of_mem_sorted {m : String × Json} {members : List (String × Json)}
    (h : m ∈ sorted members) : m ∈ members :=
  (mem_foldl_insert h).resolve_right List.not_mem_nil

/-! ### Members that may be absent -/

/-- The members that are present. -/
def present (members : List (String × Option Json)) : List (String × Json) :=
  members.filterMap fun m => m.2.map (m.1, ·)

theorem presentMembers_eq (members : List (String × Option Json)) :
    presentMembers members = ofMembers (present members) := rfl

theorem map_fst_present (members : List (String × Option Json)) :
    ((present members).map (·.1)).Sublist (members.map (·.1)) := by
  induction members with
  | nil => exact List.Sublist.slnil
  | cons m rest ih =>
      obtain ⟨k, value⟩ := m
      cases value with
      | none => exact ih.cons k
      | some v => exact ih.cons_cons k

theorem nodup_present {members : List (String × Option Json)}
    (nodup : (members.map (·.1)).Nodup) : ((present members).map (·.1)).Nodup :=
  nodup.sublist (map_fst_present members)

/-- The value that is listed under a key, if it is present. -/
def listed? (k : String) : List (String × Option Json) → Option Json
  | [] => none
  | (key, value) :: rest => if key = k then value else listed? k rest

theorem find?_present (k : String) {members : List (String × Option Json)}
    (nodup : (members.map (·.1)).Nodup) : find? k (present members) = listed? k members := by
  induction members with
  | nil => rfl
  | cons m rest ih =>
      obtain ⟨key, value⟩ := m
      obtain ⟨fresh, nodup⟩ := List.nodup_cons.1 nodup
      rw [listed?, ← ih nodup]
      cases value with
      | some v => exact find?_cons k key v (present rest)
      | none =>
          change find? k (present rest) = _
          split
          next same =>
            -- The key does not come again, so nothing else is found under it.
            have absent : k ∉ (present rest).map (·.1) := fun h =>
              fresh (same ▸ (map_fst_present rest).subset h)
            exact find?_eq_none absent
          next => rfl

theorem get?_presentMembers (k : String) {members : List (String × Option Json)}
    (nodup : (members.map (·.1)).Nodup) : get? k (presentMembers members) = listed? k members := by
  rw [presentMembers_eq, get?_ofMembers k (nodup_present nodup), find?_present k nodup]

/-! ### Records -/

namespace Fields

variable {α β : Type}

/-- What is found under the keys passes the checks of the fields, and puts the value together. -/
structure Accepts (fields : Fields α) (find : String → Option Json) (a : α) : Prop where
  /-- What is found under the key of a field passes its check. -/
  checks : ∀ check ∈ fields.checks, ∀ v, find check.1 = some v → check.2 v = .ok ()
  /-- The value is put together from what is found. -/
  gather : fields.gather find = .ok a

variable {find : String → Option Json}

/-- Fields come after fields. -/
theorem Accepts.seq {f : Fields (α → β)} {x : Fields α} {g : α → β} {a : α}
    (hf : f.Accepts find g) (hx : x.Accepts find a) : (f <*> x).Accepts find (g a) where
  checks check mem := by
    rcases List.mem_append.1 mem with mem | mem
    · exact hf.checks check mem
    · exact hx.checks check mem
  gather := by
    have rest : (f <*> x).gather find
        = f.gather find >>= fun g => x.gather find >>= fun a => .ok (g a) := rfl
    rw [rest, hf.gather, hx.gather]
    rfl

/-- The first field of a record. -/
theorem Accepts.map {x : Fields α} {a : α} (g : α → β) (hx : x.Accepts find a) :
    (g <$> x).Accepts find (g a) := by
  have none : (Fields.pure g).Accepts find g := ⟨fun _ mem => (nomatch mem), rfl⟩
  exact none.seq hx

/-- A field of any kind that is there. -/
theorem accepts_field {key : String} {decode : Decoder α} {absent short : Option α} {v : Json}
    {a : α} (found : find key = some v) (read : decode v = .ok a) :
    (field key decode absent short).Accepts find a where
  checks check mem w there := by
    obtain rfl := List.mem_singleton.1 mem
    obtain rfl : v = w := Option.some.inj (found.symm.trans there)
    change (decode v).map _ = _
    rw [read]
    rfl
  gather := by
    simp only [field, found]
    exact read

/-- A field that is missing and for which something stands in. -/
theorem accepts_field_absent {key : String} {decode : Decoder α} {a : α} {short : Option α}
    (missing : find key = none) : (field key decode (some a) short).Accepts find a where
  checks check mem w there := by
    obtain rfl := List.mem_singleton.1 mem
    nomatch missing.symm.trans there
  gather := by
    simp only [field, missing]
    rfl

theorem accepts_required {key : String} {decode : Decoder α} {v : Json} {a : α}
    (found : find key = some v) (read : decode v = .ok a) :
    (required key decode).Accepts find a :=
  accepts_field found read

/-- A field that is left out exactly when it has no value. -/
theorem accepts_optional {key : String} {decode : Decoder α} {encode : α → Json} {a : Option α}
    (found : find key = a.map encode) (read : ∀ x, decode.option (encode x) = .ok (some x)) :
    (optional key decode).Accepts find a := by
  cases a with
  | none => exact accepts_field_absent found
  | some x => exact accepts_field found (read x)

theorem checkMembers_of_forall {checks : List (String × (Json → Except Mismatch Unit))}
    {members : List (String × Json)}
    (h : ∀ m ∈ members, ∀ check ∈ checks, check.1 = m.1 → check.2 m.2 = .ok ()) :
    checkMembers checks members = .ok () := by
  induction members with
  | nil => rfl
  | cons m rest ih =>
      obtain ⟨key, value⟩ := m
      have later := ih fun m mem => h m (List.mem_cons_of_mem _ mem)
      rw [checkMembers, later]
      split
      next check found =>
        have same : check.1 = key := by simpa using List.find?_some found
        have passes : check.2 value = .ok () :=
          h _ List.mem_cons_self check (List.mem_of_find?_eq_some found) same
        rw [passes]
        rfl
      next => rfl

/-- A record is decoded to the value that its members put together. -/
theorem decode_ofMembers (name : String) {fields : Fields α} {members : List (String × Json)}
    {a : α} (nodup : (members.map (·.1)).Nodup)
    (accepts : fields.Accepts (fun key => find? key members) a) :
    decode name fields (.ofMembers members) = .ok a := by
  have checked : checkMembers fields.checks (sorted members) = .ok () := by
    refine checkMembers_of_forall fun m mem check memCheck same => ?_
    have there : find? check.1 members = some m.2 :=
      same ▸ find?_of_mem nodup (mem_of_mem_sorted mem)
    exact accepts.checks check memCheck m.2 there
  have gathered : fields.gather (fun key => find? key (sorted members)) = .ok a := by
    simp only [find?_sorted _ nodup]
    exact accepts.gather
  rw [ofMembers_eq, decode, checked]
  exact gathered

theorem decode_presentMembers (name : String) {fields : Fields α}
    {members : List (String × Option Json)} {a : α} (nodup : (members.map (·.1)).Nodup)
    (accepts : fields.Accepts (fun key => listed? key members) a) :
    decode name fields (presentMembers members) = .ok a := by
  rw [presentMembers_eq]
  refine decode_ofMembers name (nodup_present nodup) ?_
  simp only [find?_present _ nodup]
  exact accepts

end Fields

end Json

end WebDriverClient
