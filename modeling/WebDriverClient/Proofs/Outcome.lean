/-
**Results that may be failures.**

Most functions of the library are written as a chain of steps, the first of which that fails ends
the chain.  The lemmas here take such a chain apart.

Main results:

* `Except.bind_eq_ok_iff`, `Except.bind_eq_error_iff` — how a chain of two steps ends;
* `List.mapM_eq_some_map`, `List.exists_of_mem_mapM` — a step taken at every member of a list.
-/

import Mathlib.Tactic.Common

set_option autoImplicit false

namespace Except

variable {ε α β : Type}

/-- A chain has a result exactly when both of its steps have. -/
theorem bind_eq_ok_iff {x : Except ε α} {f : α → Except ε β} {b : β} :
    x >>= f = .ok b ↔ ∃ a, x = .ok a ∧ f a = .ok b := by
  cases x with
  | error e => exact ⟨fun h => (nomatch h), fun ⟨_, h, _⟩ => (nomatch h)⟩
  | ok a =>
      constructor
      · intro h
        exact ⟨a, rfl, h⟩
      · rintro ⟨a', ha, h⟩
        cases ha
        exact h

/-- A chain fails exactly when its first step does, or its second after the first. -/
theorem bind_eq_error_iff {x : Except ε α} {f : α → Except ε β} {e : ε} :
    x >>= f = .error e ↔ x = .error e ∨ ∃ a, x = .ok a ∧ f a = .error e := by
  cases x with
  | error e' =>
      constructor
      · intro h
        cases h
        exact Or.inl rfl
      · rintro (h | ⟨_, h, _⟩)
        · cases h
          rfl
        · cases h
  | ok a =>
      constructor
      · intro h
        exact Or.inr ⟨a, rfl, h⟩
      · rintro (h | ⟨a', ha, h⟩)
        · cases h
        · cases ha
          exact h

@[simp] theorem pure_eq (a : α) : (pure a : Except ε α) = .ok a := rfl

end Except

/-- Where a step has a result at every member of a list, it has all of them. -/
theorem List.mapM_eq_some_map {α β : Type} {f : α → Option β} {g : α → β} {as : List α}
    (h : ∀ a ∈ as, f a = some (g a)) : as.mapM f = some (as.map g) := by
  induction as with
  | nil => rfl
  | cons a as ih =>
      obtain ⟨here, later⟩ := List.forall_mem_cons.1 h
      rw [List.mapM_cons, here, ih later]
      rfl

/-- Each of the results of a step that has been taken at every member of a list is that of a
member. -/
theorem List.exists_of_mem_mapM {α β : Type} {f : α → Option β} {as : List α} {bs : List β}
    (h : as.mapM f = some bs) : ∀ b ∈ bs, ∃ a ∈ as, f a = some b := by
  induction as generalizing bs with
  | nil =>
      obtain rfl := Option.some.inj h
      exact fun b mem => (List.not_mem_nil mem).elim
  | cons a as ih =>
      rw [List.mapM_cons] at h
      obtain ⟨b, head, h⟩ := Option.bind_eq_some_iff.1 h
      obtain ⟨bs', tail, h⟩ := Option.bind_eq_some_iff.1 h
      obtain rfl := Option.some.inj h
      refine List.forall_mem_cons.2 ⟨⟨a, List.mem_cons_self, head⟩, fun b mem => ?_⟩
      obtain ⟨a', memA, step⟩ := ih tail b mem
      exact ⟨a', List.mem_cons_of_mem a memA, step⟩
