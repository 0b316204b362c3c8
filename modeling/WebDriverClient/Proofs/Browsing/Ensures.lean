/-
**What operations ensure.**

An operation ensures a property of its trace and one of its outcome if both hold wherever it runs.
Where the property of traces holds of nothing and of two traces put together, it is enough to know
it of the smallest operations, for the ways to put operations together keep it.

Main definitions:

* `Client.Ensures` — what an operation ensures;
* `Client.Composes` — properties of traces that are kept when operations are put together;
* `Client.Delivers` — a property of results.

Main results:

* `Client.Ensures.bind`, `Client.Ensures.map`, `Client.Ensures.attempt` — operations put together.
-/

import WebDriverClient.Browsing.Client

set_option autoImplicit false

namespace WebDriverClient.Client

variable {σ α β : Type}

/-- Wherever the operation runs, its trace and its outcome have these properties. -/
def Ensures (P : List Event → Prop) (Q : Except Failure α → Prop) (x : Client σ α) : Prop :=
  ∀ w, P (x.run w).trace ∧ Q (x.run w).outcome

/-- The property holds of no events and of the events of two traces. -/
structure Composes (P : List Event → Prop) : Prop where
  nil : P []
  append : ∀ {t u : List Event}, P t → P u → P (t ++ u)

/-- The result, if there is one, has the property. -/
def Delivers (Q : α → Prop) (r : Except Failure α) : Prop := ∀ a, r = .ok a → Q a

section

variable {P : List Event → Prop} {Q : Except Failure α → Prop} {R : Except Failure β → Prop}

/-! ### The smallest operations -/

theorem ensures_pure (hP : Composes P) {a : α} (h : Q (.ok a)) :
    (pure a : Client σ α).Ensures P Q := fun _ => ⟨hP.nil, h⟩

theorem ensures_fail (hP : Composes P) {e : Failure} (h : Q (.error e)) :
    (fail e : Client σ α).Ensures P Q := fun _ => ⟨hP.nil, h⟩

theorem ensures_ofExcept (hP : Composes P) {r : Except Failure α} (h : Q r) :
    (ofExcept r : Client σ α).Ensures P Q := fun _ => ⟨hP.nil, h⟩

/-! ### Operations put together -/

theorem run_bind_ok {x : Client σ α} {f : α → Client σ β} {w : World σ} {a : α}
    (h : (x.run w).outcome = .ok a) :
    (x >>= f).run w =
      { (f a).run (x.run w).world with
        trace := (x.run w).trace ++ ((f a).run (x.run w).world).trace } := by
  change Client.bind x f w = _
  unfold Client.bind
  split
  next b t w' hrun =>
    rw [hrun] at h ⊢
    cases h
    rfl
  next e t w' hrun =>
    rw [hrun] at h
    cases h

theorem run_bind_error {x : Client σ α} {f : α → Client σ β} {w : World σ} {e : Failure}
    (h : (x.run w).outcome = .error e) :
    (x >>= f).run w = ⟨.error e, (x.run w).trace, (x.run w).world⟩ := by
  change Client.bind x f w = _
  unfold Client.bind
  split
  next b t w' hrun =>
    rw [hrun] at h
    cases h
  next e' t w' hrun =>
    rw [hrun] at h ⊢
    cases h
    rfl

theorem run_pure (a : α) (w : World σ) : (pure a : Client σ α).run w = ⟨.ok a, [], w⟩ := rfl

/-- What is made of the result of an operation leaves its trace alone. -/
theorem run_bind_pure (x : Client σ α) (f : α → β) (w : World σ) :
    (x >>= fun a => pure (f a)).run w =
      ⟨(x.run w).outcome.map f, (x.run w).trace, (x.run w).world⟩ := by
  cases h : (x.run w).outcome with
  | ok a =>
      rw [run_bind_ok h, run_pure, List.append_nil]
      rfl
  | error e =>
      rw [run_bind_error h]
      rfl

theorem trace_bind_ok {x : Client σ α} {f : α → Client σ β} {w : World σ} {a : α}
    (h : (x.run w).outcome = .ok a) :
    ((x >>= f).run w).trace = (x.run w).trace ++ ((f a).run (x.run w).world).trace ∧
      ((x >>= f).run w).outcome = ((f a).run (x.run w).world).outcome := by
  rw [run_bind_ok h]
  exact ⟨rfl, rfl⟩

theorem trace_bind_error {x : Client σ α} {f : α → Client σ β} {w : World σ} {e : Failure}
    (h : (x.run w).outcome = .error e) :
    ((x >>= f).run w).trace = (x.run w).trace ∧ ((x >>= f).run w).outcome = .error e := by
  rw [run_bind_error h]
  exact ⟨rfl, rfl⟩

/-- An operation that goes on with the result of another. -/
theorem Ensures.bind (hP : Composes P) {x : Client σ α} {f : α → Client σ β} (hx : x.Ensures P Q)
    (hf : ∀ a, Q (.ok a) → (f a).Ensures P R) (he : ∀ e, Q (.error e) → R (.error e)) :
    (x >>= f).Ensures P R := by
  intro w
  obtain ⟨trace, outcome⟩ := hx w
  cases hr : (x.run w).outcome with
  | ok a =>
      rw [(trace_bind_ok hr).1, (trace_bind_ok hr).2]
      obtain ⟨trace', outcome'⟩ := hf a (hr ▸ outcome) (x.run w).world
      exact ⟨hP.append trace trace', outcome'⟩
  | error e =>
      rw [(trace_bind_error hr).1, (trace_bind_error hr).2]
      exact ⟨trace, he e (hr ▸ outcome)⟩

/-- Only what the results are like matters for what the operation goes on with. -/
theorem Ensures.bind_delivers (hP : Composes P) {Q : α → Prop} {R : β → Prop} {x : Client σ α}
    {f : α → Client σ β} (hx : x.Ensures P (Delivers Q))
    (hf : ∀ a, Q a → (f a).Ensures P (Delivers R)) : (x >>= f).Ensures P (Delivers R) := by
  refine hx.bind hP (fun a ha => hf a (ha a rfl)) ?_
  intro e _ a ha
  cases ha

theorem Ensures.map (hP : Composes P) {Q : α → Prop} {R : β → Prop} {x : Client σ α} {f : α → β}
    (hx : x.Ensures P (Delivers Q)) (hf : ∀ a, Q a → R (f a)) :
    (f <$> x).Ensures P (Delivers R) := by
  refine hx.bind_delivers hP fun a ha => ensures_pure hP ?_
  intro b hb
  cases hb
  exact hf a ha

/-- An operation whose failure is its result has no failure. -/
theorem Ensures.attempt {R : Except Failure α → Prop} {x : Client σ α} (hx : x.Ensures P Q)
    (h : ∀ r, Q r → R r) : x.attempt.Ensures P (Delivers R) := by
  intro w
  refine ⟨(hx w).1, ?_⟩
  intro r hr
  cases hr
  exact h _ (hx w).2

end

end WebDriverClient.Client
