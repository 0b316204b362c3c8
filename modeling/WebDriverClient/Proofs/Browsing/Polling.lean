/-
**Waits, check by check.**

A wait is told here as a relation: a check decides and the wait ends, or it decides nothing and the
time is over, or it decides nothing and the wait goes on after a pause.  What the relation says of a
world is exactly what `World.waitFrom?` comes to there.  As long as checks do not turn the clock
back, a wait with pauses ends; one without them need not.

Main definitions:

* `Client.Advances` — the operations that do not turn the clock back;
* `Poll.Undecided` — the outcomes of checks that decide nothing;
* `Waits` — the waits that end, check by check;
* `WaitOptions.Paces` — how long the pauses of a wait are;
* `checksTrace` — what happens while checks are made.

Main results:

* `Poll.verdict_eq_none_iff`, `Poll.verdict_eq_some_iff` — what a check decides;
* `World.waitFrom?_eq_some_iff` — **the relation and the function are the same**;
* `World.isSome_waitFrom?` — a wait with pauses ends;
* `Waits.exists_checks` — **a wait is a list of checks of which only the last decides anything**;
* `Client.ensures_waitUntil` — a wait ensures what its check does.
-/

import Mathlib.Data.List.Chain
import WebDriverClient.Browsing.Wait
import WebDriverClient.Proofs.Browsing.Ensures

set_option autoImplicit false

namespace WebDriverClient

variable {σ α β : Type}

/-! ### The clock -/

namespace Client

/-- The operation does not turn the clock back. -/
def Advances (x : Client σ α) : Prop := ∀ w, w.clock ≤ (x.run w).world.clock

theorem advances_pure (a : α) : (pure a : Client σ α).Advances := fun w => Nat.le_refl w.clock

theorem advances_ofExcept (r : Except Failure α) : (ofExcept r : Client σ α).Advances :=
  fun w => Nat.le_refl w.clock

theorem advances_exchange (transport : Transport σ) (call : Call) (request : Request) :
    (exchange transport call request).Advances := fun w => Nat.le_add_right w.clock _

theorem Advances.bind {x : Client σ α} {f : α → Client σ β} (hx : x.Advances)
    (hf : ∀ a, (f a).Advances) : (x >>= f).Advances := by
  intro w
  cases hr : (x.run w).outcome with
  | ok a =>
      rw [run_bind_ok hr]
      exact Nat.le_trans (hx w) (hf a (x.run w).world)
  | error e =>
      rw [run_bind_error hr]
      exact hx w

end Client

/-! ### What a check decides -/

namespace Poll

/-- The check decides nothing: the condition does not hold yet, or no element is there. -/
def Undecided (outcome : Except Failure (Poll α)) : Prop :=
  outcome = .ok .pending ∨ ∃ e, outcome = .error e ∧ e.code? = some .noSuchElement

theorem isRetryable_iff (e : Failure) : e.isRetryable = true ↔ e.code? = some .noSuchElement := by
  rw [Failure.isRetryable, Failure.isNoSuchElement, decide_eq_true_iff]

theorem verdict_eq_none_iff {outcome : Except Failure (Poll α)} :
    verdict outcome = none ↔ Undecided outcome := by
  match outcome with
  | .ok (.ready a) => simp [verdict, Undecided]
  | .ok .pending => simp [verdict, Undecided]
  | .error e =>
      rw [verdict, Undecided]
      by_cases retry : e.code? = some .noSuchElement
      · simp [(isRetryable_iff e).2 retry, retry]
      · simp [mt (isRetryable_iff e).1 retry, retry]

theorem verdict_eq_some_iff {outcome : Except Failure (Poll α)} {r : Except Failure α} :
    verdict outcome = some r ↔
      (∃ a, outcome = .ok (.ready a) ∧ r = .ok a) ∨
        ∃ e, outcome = .error e ∧ e.code? ≠ some .noSuchElement ∧ r = .error e := by
  match outcome with
  | .ok (.ready a) => simp [verdict, eq_comm]
  | .ok .pending => simp [verdict]
  | .error e =>
      rw [verdict]
      by_cases retry : e.code? = some .noSuchElement
      · simp [(isRetryable_iff e).2 retry, retry]
      · simp only [mt (isRetryable_iff e).1 retry]
        constructor
        · rintro ⟨⟩
          exact Or.inr ⟨e, rfl, retry, rfl⟩
        · rintro (⟨a, h, -⟩ | ⟨f, h, -, rfl⟩)
          · cases h
          · cases h
            rfl

end Poll

/-! ### Waits -/

section

variable (check : Client σ (Poll α)) (interval deadline : Nat)

/-- The world after a check and a pause. -/
def afterPause (v : World σ) (pause : Nat) : World σ :=
  { (check.run v).world with clock := (check.run v).world.clock + pause }

/-- The waits that end, from a world on, with what comes of them. -/
inductive Waits : World σ → Run σ (Option α) → Prop
  | decided {v : World σ} {verdict : Except Failure α}
      (decides : Poll.verdict (check.run v).outcome = some verdict) :
      Waits v ⟨some <$> verdict, .check v.clock :: (check.run v).trace, (check.run v).world⟩
  | expired {v : World σ} (undecided : Poll.verdict (check.run v).outcome = none)
      (late : deadline ≤ (check.run v).world.clock) :
      Waits v ⟨.ok none, .check v.clock :: (check.run v).trace, (check.run v).world⟩
  | paused {v : World σ} {r : Run σ (Option α)}
      (undecided : Poll.verdict (check.run v).outcome = none)
      (early : (check.run v).world.clock < deadline)
      (goes : Waits
        (afterPause check v (min interval (deadline - (check.run v).world.clock))) r) :
      Waits v ⟨r.outcome, .check v.clock :: (check.run v).trace ++ r.trace, r.world⟩

variable {check interval deadline} {v : World σ} {r : Run σ (Option α)}

theorem World.waitFrom?_of_decided {verdict : Except Failure α}
    (decides : Poll.verdict (check.run v).outcome = some verdict) :
    v.waitFrom? check interval deadline =
      some ⟨some <$> verdict, .check v.clock :: (check.run v).trace, (check.run v).world⟩ := by
  rw [waitFrom?]
  simp only [decides]

theorem World.waitFrom?_of_late (undecided : Poll.verdict (check.run v).outcome = none)
    (late : deadline ≤ (check.run v).world.clock) :
    v.waitFrom? check interval deadline =
      some ⟨.ok none, .check v.clock :: (check.run v).trace, (check.run v).world⟩ := by
  rw [waitFrom?]
  simp only [undecided, if_pos late]

/-- A check that decides nothing in time leaves the wait to go on after the pause. -/
theorem World.waitFrom?_of_early (undecided : Poll.verdict (check.run v).outcome = none)
    (early : (check.run v).world.clock < deadline) :
    v.waitFrom? check interval deadline =
      ((afterPause check v (min interval (deadline - (check.run v).world.clock))).waitFrom?
        check interval deadline).map fun rest =>
          ⟨rest.outcome, .check v.clock :: (check.run v).trace ++ rest.trace, rest.world⟩ := by
  rw [waitFrom?]
  simp only [undecided, if_neg (Nat.not_le.2 early)]
  exact Option.map_eq_bind.symm

/-- **The waits are what the function comes to.** -/
theorem World.waitFrom?_eq_some_iff :
    v.waitFrom? check interval deadline = some r ↔ Waits check interval deadline v r := by
  constructor
  · -- What comes of the loop comes of finitely many rounds of it.
    refine waitFrom?.partial_correctness check interval deadline
      (Waits check interval deadline) ?_ v r
    intro loop ih v r ended
    dsimp only at ended
    cases verdict : Poll.verdict (check.run v).outcome with
    | some decided =>
        simp only [verdict, Option.some.injEq] at ended
        exact ended ▸ .decided verdict
    | none =>
        simp only [verdict] at ended
        by_cases late : deadline ≤ (check.run v).world.clock
        · rw [if_pos late, Option.some.injEq] at ended
          exact ended ▸ .expired verdict late
        · rw [if_neg late] at ended
          obtain ⟨rest, goes, rfl⟩ := Option.map_eq_some_iff.1 (Option.map_eq_bind.trans ended)
          exact .paused verdict (Nat.not_le.1 late) (ih _ _ goes)
  · intro waits
    induction waits with
    | decided decides => exact waitFrom?_of_decided decides
    | expired undecided late => exact waitFrom?_of_late undecided late
    | paused undecided early _ ih =>
        rw [waitFrom?_of_early undecided early, ih]
        rfl

/-- **A wait with pauses ends**, and so does one that begins when the time is over. -/
theorem World.isSome_waitFrom? (advances : check.Advances) (interval deadline : Nat) (v : World σ)
    (ends : 0 < interval ∨ deadline ≤ v.clock) :
    (v.waitFrom? check interval deadline).isSome := by
  -- The time that is left gets less with every pause.
  induction left : deadline - v.clock using Nat.strongRecOn generalizing v with
  | ind n ih =>
      subst left
      have later := advances v
      cases verdict : Poll.verdict (check.run v).outcome with
      | some decided =>
          rw [waitFrom?_of_decided verdict]
          rfl
      | none =>
          by_cases late : deadline ≤ (check.run v).world.clock
          · rw [waitFrom?_of_late verdict late]
            rfl
          · have early : (check.run v).world.clock < deadline := Nat.not_le.1 late
            have positive : 0 < interval := by omega
            rw [waitFrom?_of_early verdict early, Option.isSome_map]
            refine ih _ ?_ _ (.inl positive) rfl
            simp only [afterPause]
            omega

/-- The pauses of a wait are as long as its options say if it ends, as it does if they say so. -/
def WaitOptions.Paces (options : WaitOptions) (check : Client σ (Poll α)) (start : World σ)
    (interval : Nat) : Prop :=
  0 < options.interval.nanoseconds ∨ (waitUntil? check options start).isSome →
    interval = options.interval.nanoseconds

theorem run_waitUntil_of_some {options : WaitOptions}
    (ended : waitUntil? check options v = some r) : (waitUntil check options).run v = r := by
  rw [Client.run, waitUntil, ended]

/-- The operation is a wait that ends, or there is none that could stand in for it. -/
theorem run_waitUntil_cases (check : Client σ (Poll α)) (options : WaitOptions) (v : World σ) :
    (∃ interval, Waits check interval (v.clock + options.timeout.nanoseconds) v
      ((waitUntil check options).run v)) ∨ (waitUntil check options).run v = ⟨.ok none, [], v⟩ := by
  rw [Client.run, waitUntil]
  cases ended : waitUntil? check options v with
  | some r => exact .inl ⟨_, World.waitFrom?_eq_some_iff.1 ended⟩
  | none =>
      cases standsIn : waitUntil? check { options with interval := options.timeout } v with
      | some r => exact .inl ⟨_, World.waitFrom?_eq_some_iff.1 standsIn⟩
      | none => exact .inr rfl

/-- **The operation is a wait that ends**, with the pauses of its options if these let it end. -/
theorem waits_waitUntil (advances : check.Advances) (options : WaitOptions) (v : World σ) :
    ∃ interval, options.Paces check v interval ∧
      Waits check interval (v.clock + options.timeout.nanoseconds) v
        ((waitUntil check options).run v) := by
  cases ended : waitUntil? check options v with
  | some r =>
      rw [run_waitUntil_of_some ended]
      exact ⟨_, fun _ => rfl, World.waitFrom?_eq_some_iff.1 ended⟩
  | none =>
      -- The wait that pauses until the deadline ends, for there is time left or there is none.
      have stands : (waitUntil? check { options with interval := options.timeout } v).isSome :=
        World.isSome_waitFrom? advances _ _ v (by
          rcases Nat.eq_zero_or_pos options.timeout.nanoseconds with zero | positive
          · exact .inr (by rw [zero]; exact Nat.le_refl _)
          · exact .inl positive)
      obtain ⟨r, standsIn⟩ := Option.isSome_iff_exists.1 stands
      have run : (waitUntil check options).run v = r := by
        rw [Client.run, waitUntil, ended, standsIn]
        rfl
      refine ⟨options.timeout.nanoseconds, ?_, run ▸ World.waitFrom?_eq_some_iff.1 standsIn⟩
      rintro (positive | some)
      · have ends := World.isSome_waitFrom? advances _ (v.clock + options.timeout.nanoseconds) v
          (.inl positive)
        rw [← waitUntil?, ended] at ends
        cases ends
      · rw [ended] at some
        cases some

/-! ### The checks of a wait -/

/-- What happens while checks are made in some worlds. -/
def checksTrace (check : Client σ (Poll α)) (worlds : List (World σ)) : List Event :=
  worlds.flatMap fun v => .check v.clock :: (check.run v).trace

/-- The second world is the one after a check in the first, which leaves time, and a pause, which is
an interval long if the deadline lets it. -/
def Follows (check : Client σ (Poll α)) (interval deadline : Nat) (u v : World σ) : Prop :=
  (check.run u).world.clock < deadline ∧
    v = afterPause check u (min interval (deadline - (check.run u).world.clock))

/-- A wait is made of these checks: all but the last decide nothing, and the last ends the wait. -/
structure Checks (check : Client σ (Poll α)) (interval deadline : Nat) (start : World σ)
    (earlier : List (World σ)) (last : World σ) (r : Run σ (Option α)) : Prop where
  /-- The first check is made at once. -/
  first : (earlier ++ [last]).head? = some start
  /-- Between two checks there is only a pause. -/
  next : (earlier ++ [last]).IsChain (Follows check interval deadline)
  /-- What happens is what happens while the checks are made. -/
  trace : r.trace = checksTrace check (earlier ++ [last])
  /-- Nothing happens after the last check. -/
  world : r.world = (check.run last).world
  /-- The checks but the last decide nothing. -/
  undecided : ∀ v ∈ earlier, Poll.verdict (check.run v).outcome = none
  /-- What the last check decides is what the wait ends with. -/
  decided : ∀ verdict, Poll.verdict (check.run last).outcome = some verdict →
    r.outcome = some <$> verdict
  /-- If it decides nothing, the time is over after it. -/
  expired : Poll.verdict (check.run last).outcome = none →
    r.outcome = .ok none ∧ deadline ≤ (check.run last).world.clock

theorem checksTrace_cons (v : World σ) (worlds : List (World σ)) :
    checksTrace check (v :: worlds) =
      .check v.clock :: (check.run v).trace ++ checksTrace check worlds := List.flatMap_cons

/-- The world in which a single check is made ends the wait. -/
theorem checksTrace_singleton (v : World σ) :
    checksTrace check [v] = .check v.clock :: (check.run v).trace := by
  rw [checksTrace_cons, checksTrace, List.flatMap_nil, List.append_nil]

/-- **A wait is a list of checks of which only the last decides anything.** -/
theorem Waits.exists_checks (h : Waits check interval deadline v r) :
    ∃ earlier last, Checks check interval deadline v earlier last r := by
  induction h with
  | @decided v verdict decides =>
      refine ⟨[], v, rfl, .singleton v, (checksTrace_singleton v).symm, rfl, by simp, ?_, ?_⟩
      · intro other h
        rw [decides] at h
        cases h
        rfl
      · intro h
        rw [decides] at h
        cases h
  | @expired v undecided late =>
      refine ⟨[], v, rfl, .singleton v, (checksTrace_singleton v).symm, rfl, by simp, ?_,
        fun _ => ⟨rfl, late⟩⟩
      intro verdict h
      rw [undecided] at h
      cases h
  | @paused v r undecided early goes ih =>
      obtain ⟨earlier, last, checks⟩ := ih
      refine ⟨v :: earlier, last, rfl, ?_, ?_, checks.world,
        List.forall_mem_cons.2 ⟨undecided, checks.undecided⟩, checks.decided, checks.expired⟩
      · -- The next check is the first of the rest, which is made after the pause.
        refine List.isChain_cons.2 ⟨?_, checks.next⟩
        intro u hu
        have first : some u = (earlier ++ [last]).head? := hu.symm
        rw [checks.first] at first
        cases first
        exact ⟨early, rfl⟩
      · change _ = checksTrace check (v :: (earlier ++ [last]))
        rw [checksTrace_cons, ← checks.trace]

end

/-! ### What a wait ensures -/

namespace Client

variable {P : List Event → Prop} {Q : α → Prop} {check : Client σ (Poll α)}

/-- The element that a check finds, if it finds one, has the property. -/
def Finds (Q : α → Prop) : Poll α → Prop
  | .ready a => Q a
  | .pending => True

/-- What a check decides has the property that it finds things with. -/
theorem Ensures.of_verdict (hc : check.Ensures P (Delivers (Finds Q))) {v : World σ}
    {verdict : Except Failure α} (decides : Poll.verdict (check.run v).outcome = some verdict) :
    Delivers Q verdict := by
  rintro a rfl
  rcases Poll.verdict_eq_some_iff.1 decides with ⟨b, ready, same⟩ | ⟨e, -, -, none⟩
  · cases same
    exact (hc v).2 _ ready
  · cases none

/-- Where nothing is found there is nothing to show. -/
theorem delivers_none (Q : α → Prop) :
    Delivers (fun found => ∀ a, found = some a → Q a) (.ok none) := by
  intro found outcome a some
  cases outcome
  cases some

theorem ensures_waits (hP : Composes P) (mark : ∀ time, P [.check time])
    (hc : check.Ensures P (Delivers (Finds Q))) {interval deadline : Nat} {v : World σ}
    {r : Run σ (Option α)} (h : Waits check interval deadline v r) :
    P r.trace ∧ Delivers (fun found => ∀ a, found = some a → Q a) r.outcome := by
  have checked (u : World σ) : P (.check u.clock :: (check.run u).trace) :=
    hP.append (mark u.clock) (hc u).1
  induction h with
  | @decided u verdict decides =>
      refine ⟨checked u, ?_⟩
      intro found outcome a some
      cases verdict with
      | error e => cases outcome
      | ok b =>
          cases outcome
          cases some
          exact hc.of_verdict decides a rfl
  | @expired u => exact ⟨checked u, delivers_none Q⟩
  | @paused u r _ _ _ ih => exact ⟨hP.append (checked u) ih.1, ih.2⟩

/-- **A wait ensures what its check does**: the trace has the property if that of every check has
it, and what is found has the property that a check finds it with. -/
theorem ensures_waitUntil (hP : Composes P) (mark : ∀ time, P [.check time])
    (hc : check.Ensures P (Delivers (Finds Q))) (options : WaitOptions) :
    (waitUntil check options).Ensures P (Delivers fun r => ∀ a, r = some a → Q a) := by
  intro v
  rcases run_waitUntil_cases check options v with ⟨interval, waits⟩ | none
  · exact ensures_waits hP mark hc waits
  · rw [none]
    exact ⟨hP.nil, delivers_none Q⟩

end Client

end WebDriverClient
