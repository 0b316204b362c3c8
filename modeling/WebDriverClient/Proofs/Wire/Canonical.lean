/-
**What is read is sent as it came.**

A record leaves out what it does not know and what is absent, and so it is sent as the object that
it was read from with those members taken away.  An object keeps its members sorted, each key once,
and is therefore known by what is found under its keys; the record is compared with the object key
by key.

Only one field can be read in two ways that are not told apart later: a variant may come as a text
or as an object, and it is sent as a text.

Main definitions:

* `Json.restricted` — an object without unknown members and without members that are `null`;
* `Cookie.keys`, `Timeouts.keys` — the keys that are known.

Main results:

* `Json.IsSorted.ext` — sorted members are known by what is found under their keys;
* `Cookie.toJson_of_decode`, `Timeouts.toJson_of_decode` — encoding undoes decoding;
* `wire_restores` — **values survive the wire in both directions**.
-/

import WebDriverClient.Proofs.Wire.RoundTrip

set_option autoImplicit false

namespace WebDriverClient

namespace Json

/-! ### Sorted members -/

/-- The keys of members ascend, and so none comes twice. -/
def IsSorted (members : List (String × Json)) : Prop :=
  members.Pairwise fun m n => m.1 < n.1

theorem IsSorted.nodup {members : List (String × Json)} (h : IsSorted members) :
    (members.map (·.1)).Nodup :=
  List.pairwise_map.2 (h.imp fun less => String.ne_of_lt less)

theorem isSorted_insert {members : List (String × Json)} (h : IsSorted members) (key : String)
    (value : Json) : IsSorted (insert key value members) := by
  induction members with
  | nil => exact List.pairwise_singleton _ _
  | cons m rest ih =>
      obtain ⟨k, v⟩ := m
      obtain ⟨below, ascends⟩ := List.pairwise_cons.1 h
      rw [insert]
      split
      next same => exact List.pairwise_cons.2 ⟨same ▸ below, ascends⟩
      next other =>
        split
        next less =>
          refine List.pairwise_cons.2 ⟨?_, h⟩
          exact List.forall_mem_cons.2 ⟨less, fun n mem => String.lt_trans less (below n mem)⟩
        next notLess =>
          refine List.pairwise_cons.2 ⟨fun n mem => ?_, ih ascends⟩
          rcases mem_insert mem with rfl | mem
          · by_contra notMore
            exact other (String.le_antisymm (String.not_lt.1 notMore) (String.not_lt.1 notLess))
          · exact below n mem

theorem isSorted_sorted (members : List (String × Json)) : IsSorted (sorted members) := by
  have all (before : List (String × Json)) (h : IsSorted before) :
      IsSorted (members.foldl (fun sorted m => insert m.1 m.2 sorted) before) := by
    induction members generalizing before with
    | nil => exact h
    | cons m rest ih => exact ih _ (isSorted_insert h m.1 m.2)
  exact all [] List.Pairwise.nil

theorem IsSorted.mem_iff {members : List (String × Json)} (h : IsSorted members)
    (m : String × Json) : m ∈ members ↔ find? m.1 members = some m.2 := by
  constructor
  · exact find?_of_mem h.nodup
  · intro found
    obtain ⟨n, first, value⟩ := Option.map_eq_some_iff.1 found
    have key : n.1 = m.1 := by simpa using List.find?_some first
    have same : n = m := Prod.ext key value
    exact same ▸ List.mem_of_find?_eq_some first

/-- Sorted members are the same if the same is found under every key. -/
theorem IsSorted.ext {ms ns : List (String × Json)} (hm : IsSorted ms) (hn : IsSorted ns)
    (same : ∀ k, find? k ms = find? k ns) : ms = ns := by
  have members : ms.Perm ns := by
    have once {l : List (String × Json)} (h : IsSorted l) : l.Nodup :=
      h.imp fun less same => String.ne_of_lt less (congrArg Prod.fst same)
    refine (List.perm_ext_iff_of_nodup (once hm) (once hn)).2 fun m => ?_
    rw [hm.mem_iff, hn.mem_iff, same]
  refine members.eq_of_pairwise ?_ hm hn
  intro m n _ _ less more
  exact absurd more (String.lt_asymm less)

/-! ### Known members -/

/-- The value is `null`. -/
def isNull : Json → Bool
  | .null => true
  | _ => false

/-- An object without its members that are `null` or come under other keys than the given ones. -/
def restricted (keys : List String) : Json → Json
  | .object members => .object (members.filter fun m => keys.contains m.1 && !m.2.isNull)
  | v => v

/-- What is found under a key unless it is `null`. -/
def given? (find : String → Option Json) (key : String) : Option Json :=
  (find key).filter (!·.isNull)

theorem find?_filter {members : List (String × Json)} (nodup : (members.map (·.1)).Nodup)
    (keep : String → Json → Bool) (k : String) :
    find? k (members.filter fun m => keep m.1 m.2) = (find? k members).filter (keep k) := by
  induction members with
  | nil => rfl
  | cons m rest ih =>
      obtain ⟨key, value⟩ := m
      obtain ⟨fresh, nodup⟩ := List.nodup_cons.1 nodup
      rw [find?_cons, List.filter_cons]
      by_cases here : key = k
      · subst here
        rw [if_pos rfl]
        have absent : find? key rest = none := find?_eq_none fresh
        split
        next kept => simp [find?_cons, Option.filter, kept]
        next dropped => simp [ih nodup, absent, Option.filter, dropped]
      · rw [if_neg here]
        split
        next => rw [find?_cons, if_neg here, ih nodup]
        next => exact ih nodup

/-- What is found in an object without unknown members and members that are `null`. -/
theorem get?_restricted (keys : List String) (members : List (String × Json)) (k : String) :
    ((ofMembers members).restricted keys).get? k =
      ((ofMembers members).get? k).filter fun v => keys.contains k && !v.isNull :=
  find?_filter (isSorted_sorted members).nodup (fun k v => keys.contains k && !v.isNull) k

theorem listed?_of_mem {m : String × Option Json} {listed : List (String × Option Json)}
    (nodup : (listed.map (·.1)).Nodup) (h : m ∈ listed) : listed? m.1 listed = m.2 := by
  induction listed with
  | nil => nomatch h
  | cons n rest ih =>
      obtain ⟨fresh, nodup⟩ := List.nodup_cons.1 nodup
      rw [listed?]
      rcases List.mem_cons.1 h with rfl | h
      · exact if_pos rfl
      · have other : n.1 ≠ m.1 := fun same => fresh (List.mem_map.2 ⟨m, h, same.symm⟩)
        rw [if_neg other, ih nodup h]

theorem listed?_eq_none {k : String} {listed : List (String × Option Json)}
    (h : k ∉ listed.map (·.1)) : listed? k listed = none := by
  induction listed with
  | nil => rfl
  | cons n rest ih =>
      rw [List.map_cons, List.mem_cons, not_or] at h
      rw [listed?, if_neg (Ne.symm h.1), ih h.2]

/-- A record is sent as an object with unknown and absent members taken away if it lists under each
known key what the object has there. -/
theorem presentMembers_eq_restricted {members : List (String × Json)}
    {listed : List (String × Option Json)} (nodup : (listed.map (·.1)).Nodup)
    (same : ∀ m ∈ listed, m.2 = given? (fun k => find? k (sorted members)) m.1) :
    presentMembers listed = (Json.ofMembers members).restricted (listed.map (·.1)) := by
  have ascends := isSorted_sorted members
  rw [presentMembers_eq, ofMembers_eq, ofMembers_eq, restricted]
  refine congrArg Json.object ((isSorted_sorted _).ext (ascends.filter _) fun k => ?_)
  rw [find?_sorted k (nodup_present nodup), find?_present k nodup,
    find?_filter ascends.nodup (fun k v => (listed.map (·.1)).contains k && !v.isNull)]
  by_cases known : k ∈ listed.map (·.1)
  · obtain ⟨m, mem, rfl⟩ := List.mem_map.1 known
    rw [listed?_of_mem nodup mem, same m mem, given?, List.contains_iff_mem.2 known]
    simp
  · have unknown : (listed.map (·.1)).contains k = false :=
      Bool.eq_false_iff.2 fun h => known (List.contains_iff_mem.1 h)
    rw [listed?_eq_none known, unknown]
    cases find? k (sorted members) <;> rfl

/-! ### Fields that are given -/

namespace Fields

variable {α β : Type} {find : String → Option Json}

theorem gather_seq {f : Fields (α → β)} {x : Fields α} {b : β}
    (h : (f <*> x).gather find = .ok b) :
    ∃ g a, f.gather find = .ok g ∧ x.gather find = .ok a ∧ b = g a := by
  obtain ⟨g, front, h⟩ := Except.bind_eq_ok_iff.1 h
  obtain ⟨a, last, h⟩ := Except.bind_eq_ok_iff.1 h
  exact ⟨g, a, front, last, (Except.ok.inj h).symm⟩

theorem gather_map {g : α → β} {x : Fields α} {b : β} (h : (g <$> x).gather find = .ok b) :
    ∃ a, x.gather find = .ok a ∧ b = g a := by
  obtain ⟨_, a, none, read, rfl⟩ := gather_seq h
  obtain rfl := Except.ok.inj none
  exact ⟨a, read, rfl⟩

/-- A record is put together from what is found in an object. -/
theorem gather_of_decode {name : String} {fields : Fields α} {members : List (String × Json)}
    {a : α} (h : decode name fields (.ofMembers members) = .ok a) :
    fields.gather (fun k => find? k (sorted members)) = .ok a := by
  obtain ⟨_, -, h⟩ := Except.bind_eq_ok_iff.1 h
  exact h

/-- Encoding undoes decoding where a value is given under the key. -/
def Restores (find : String → Option Json) (key : String) (decode : Decoder α)
    (encode : α → Json) : Prop :=
  ∀ v a, find key = some v → decode v = .ok a → v = encode a

/-- A field that is needed is given as it is sent. -/
theorem given?_required {key : String} {decode : Decoder α} {encode : α → Json} {a : α}
    (h : (required key decode).gather find = .ok a) (restores : Restores find key decode encode)
    (there : ∀ a, (encode a).isNull = false) : some (encode a) = given? find key := by
  cases found : find key with
  | none =>
      simp only [required, field, found] at h
      cases h
  | some v =>
      simp only [required, field, found] at h
      rw [restores v a found h] at found
      simp [given?, found, Option.filter, there]

/-- A field that may be absent is given as it is sent. -/
theorem given?_optional {key : String} {decode : Decoder α} {encode : α → Json} {a : Option α}
    (h : (optional key decode).gather find = .ok a) (restores : Restores find key decode encode)
    (there : ∀ a, (encode a).isNull = false) : a.map encode = given? find key := by
  cases found : find key with
  | none =>
      simp only [optional, field, found] at h
      obtain rfl := Except.ok.inj h
      simp [given?, found]
  | some v =>
      simp only [optional, field, found] at h
      by_cases null : v = .null
      · subst null
        obtain rfl := Except.ok.inj h
        simp [given?, found, Option.filter, isNull]
      · have read : Decoder.option decode v = (decode v).map some := by
          cases v <;> first | exact absurd rfl null | rfl
        rw [read] at h
        cases value : decode v with
        | error e =>
            rw [value] at h
            cases h
        | ok x =>
            rw [value] at h
            obtain rfl := Except.ok.inj h
            rw [restores v x found value] at found
            simp [given?, found, Option.filter, there]

end Fields

/-! ### Values that are read in one way -/

section

variable {find : String → Option Json} {key : String}

theorem restores_string : Fields.Restores find key Decoder.string .string := by
  intro v s _ h
  cases v <;> cases h
  rfl

theorem restores_boolean : Fields.Restores find key Decoder.boolean .bool := by
  intro v b _ h
  cases v <;> cases h
  rfl

/-- A natural is sent as the integer that it was read from. -/
theorem eq_of_natural {v : Json} {n : UInt64} (h : Decoder.natural v = .ok n) :
    v = .nat n.toNat := by
  unfold Decoder.natural at h
  split at h
  next i =>
    split at h
    next bounds =>
      obtain rfl := Except.ok.inj h
      have small : i.toNat < 18446744073709551616 := by
        have above : i < 18446744073709551616 := bounds.2
        omega
      have whole : ((UInt64.ofNat i.toNat).toNat : Int) = i := by
        rw [UInt64.toNat_ofNat', Nat.mod_eq_of_lt small]
        exact Int.toNat_of_nonneg bounds.1
      rw [nat, int, whole]
    next => cases h
  next => cases h

theorem restores_natural :
    Fields.Restores find key Decoder.natural fun n => .nat n.toNat :=
  fun _ _ _ => eq_of_natural

end

end Json

theorem SameSite.eq_of_decode {name : String} {policy : SameSite}
    (h : SameSite.decode (.string name) = .ok policy) : Json.string name = policy.toJson := by
  change Json.Decoder.variantOf SameSite.variants name = _ at h
  unfold Json.Decoder.variantOf at h
  split at h
  next v found =>
    obtain rfl := Except.ok.inj h
    have same : v.1 = name := by simpa using List.find?_some found
    have each : ∀ v ∈ SameSite.variants, v.1 = v.2.text := by decide
    rw [SameSite.toJson, ← each v (List.mem_of_find?_eq_some found), same]
  next => nomatch h

open Json (restores_string restores_boolean restores_natural)
open Json.Fields (Restores gather_seq gather_map gather_of_decode given?_required given?_optional)

/-- The keys that timeouts know. -/
def Timeouts.keys : List String := ["script", "pageLoad", "implicit"]

theorem Timeouts.toJson_of_decode {members : List (String × Json)} {t : Timeouts}
    (h : Timeouts.decode (.ofMembers members) = .ok t) :
    t.toJson = (Json.ofMembers members).restricted Timeouts.keys := by
  obtain ⟨_, implicit, first₂, hImplicit, rfl⟩ := gather_seq (gather_of_decode h)
  obtain ⟨_, pageLoad, first, hPageLoad, rfl⟩ := gather_seq first₂
  obtain ⟨script, hScript, rfl⟩ := gather_map first
  refine Json.presentMembers_eq_restricted (by simp) ?_
  simp only [List.forall_mem_cons]
  refine ⟨?script, ?pageLoad, ?implicit, fun m mem => (nomatch mem)⟩
  case script => exact given?_optional hScript restores_natural fun _ => rfl
  case pageLoad => exact given?_optional hPageLoad restores_natural fun _ => rfl
  case implicit => exact given?_optional hImplicit restores_natural fun _ => rfl

/-- The keys that a cookie knows. -/
def Cookie.keys : List String :=
  ["name", "value", "domain", "path", "secure", "httpOnly", "expiry", "sameSite"]

theorem Cookie.toJson_of_decode {members : List (String × Json)} {c : Cookie}
    (h : Cookie.decode (.ofMembers members) = .ok c)
    (plain : ∀ v, (Json.ofMembers members).get? "sameSite" = some v →
      v = .null ∨ ∃ s, v = .string s) :
    c.toJson = (Json.ofMembers members).restricted Cookie.keys := by
  obtain ⟨_, sameSite, first₇, hSameSite, rfl⟩ := gather_seq (gather_of_decode h)
  obtain ⟨_, expiry, first₆, hExpiry, rfl⟩ := gather_seq first₇
  obtain ⟨_, httpOnly, first₅, hHttpOnly, rfl⟩ := gather_seq first₆
  obtain ⟨_, secure, first₄, hSecure, rfl⟩ := gather_seq first₅
  obtain ⟨_, path, first₃, hPath, rfl⟩ := gather_seq first₄
  obtain ⟨_, domain, first₂, hDomain, rfl⟩ := gather_seq first₃
  obtain ⟨_, value, first, hValue, rfl⟩ := gather_seq first₂
  obtain ⟨name, hName, rfl⟩ := gather_map first
  have policy : Restores (fun k => Json.find? k (Json.sorted members)) "sameSite"
      SameSite.decode SameSite.toJson := by
    intro v s found read
    rcases plain v found with rfl | ⟨name, rfl⟩
    · nomatch read
    · exact SameSite.eq_of_decode read
  refine Json.presentMembers_eq_restricted (by simp) ?_
  simp only [List.forall_mem_cons]
  refine ⟨?name, ?value, ?domain, ?path, ?secure, ?httpOnly, ?expiry, ?sameSite,
    fun m mem => (nomatch mem)⟩
  case name => exact given?_required hName restores_string fun _ => rfl
  case value => exact given?_required hValue restores_string fun _ => rfl
  case domain => exact given?_optional hDomain restores_string fun _ => rfl
  case path => exact given?_optional hPath restores_string fun _ => rfl
  case secure => exact given?_optional hSecure restores_boolean fun _ => rfl
  case httpOnly => exact given?_optional hHttpOnly restores_boolean fun _ => rfl
  case expiry => exact given?_optional hExpiry restores_natural fun _ => rfl
  case sameSite => exact given?_optional hSameSite policy fun _ => rfl

/-! ### Both directions -/

/-- What is sent is read as the value that was sent; and an object that is read as a cookie or as
timeouts is sent as that object, less what is unknown or `null`.  A cookie's policy must have come
as a text. -/
theorem wire_restores :
    (∀ c : Cookie, Cookie.decode c.toJson = .ok c)
      ∧ (∀ t : Timeouts, Timeouts.decode t.toJson = .ok t)
      ∧ (∀ r : Rect, Rect.decode r.toJson = .ok r)
      ∧ (∀ kind : WindowKind, WindowKind.decode kind.toJson = .ok kind)
      ∧ (∀ policy : SameSite, SameSite.decode policy.toJson = .ok policy)
      ∧ (∀ id : SessionId, SessionId.decode id.toJson = .ok id)
      ∧ (∀ handle : WindowHandle, WindowHandle.decode handle.toJson = .ok handle)
      ∧ (∀ id : ElementId, ElementId.decode id.toJson = .ok id)
      ∧ (∀ id : ElementId, ElementId.decodeReference id.reference = .ok id)
      ∧ (∀ members (c : Cookie), Cookie.decode (.ofMembers members) = .ok c →
          (∀ v, (Json.ofMembers members).get? "sameSite" = some v →
            v = .null ∨ ∃ s, v = .string s) →
          c.toJson = (Json.ofMembers members).restricted Cookie.keys)
      ∧ ∀ members (t : Timeouts), Timeouts.decode (.ofMembers members) = .ok t →
          t.toJson = (Json.ofMembers members).restricted Timeouts.keys :=
  ⟨Cookie.decode_toJson, Timeouts.decode_toJson, Rect.decode_toJson, WindowKind.decode_toJson,
    SameSite.decode_toJson, SessionId.decode_toJson, WindowHandle.decode_toJson,
    ElementId.decode_toJson, ElementId.decodeReference_reference,
    fun _ _ => Cookie.toJson_of_decode, fun _ _ => Timeouts.toJson_of_decode⟩

/-- A cookie with an unknown member, one that is `null` and a repeated one; and timeouts of which
one is unlimited. -/
theorem wire_restores_unknown_and_null :
    let object := Json.ofMembers [("value", .string "old"), ("sameSite", .string "None"),
      ("secure", .null), ("value", .string "v"), ("name", .string "n"), ("priority", .nat 1),
      ("expiry", .nat 18446744073709551615)]
    let cookie : Cookie :=
      { name := "n", value := "v", expiry := some 18446744073709551615, sameSite := some .none }
    let limits := Json.ofMembers [("script", .null), ("pageLoad", .nat 300000),
      ("implicit", .nat 0), ("beforeUnload", .nat 1)]
    let timeouts : Timeouts := { pageLoad := some 300000, implicit := some 0 }
    Cookie.decode object = .ok cookie
      ∧ object.restricted Cookie.keys = .ofMembers [("name", .string "n"), ("value", .string "v"),
        ("expiry", .nat 18446744073709551615), ("sameSite", .string "None")]
      ∧ cookie.toJson = object.restricted Cookie.keys
      ∧ Timeouts.decode limits = .ok timeouts
      ∧ limits.restricted Timeouts.keys
        = .ofMembers [("pageLoad", .nat 300000), ("implicit", .nat 0)]
      ∧ timeouts.toJson = limits.restricted Timeouts.keys := by
  intro object cookie limits timeouts
  have read : Cookie.decode object = .ok cookie := by rfl
  have plain : ∀ v, object.get? "sameSite" = some v → v = .null ∨ ∃ s, v = .string s := by
    intro v found
    exact .inr ⟨"None", (Option.some.inj found).symm⟩
  have readLimits : Timeouts.decode limits = .ok timeouts := by rfl
  obtain ⟨-, -, -, -, -, -, -, -, -, ofCookie, ofTimeouts⟩ := wire_restores
  exact ⟨read, rfl, ofCookie _ cookie read plain, readLimits, rfl, ofTimeouts _ timeouts readLimits⟩

end WebDriverClient
