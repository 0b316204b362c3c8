/-
**What a deadline promises.**

The checks of a wait are counted here without regard to how the wait ends: the world of each check
is the one after the check before it and a pause, which is as long as the interval or as the time
that is left.  A check is made if none before it has decided anything or has ended too late.  Checks
may take any time or none, and a wait without an interval may go on for ever; its checks are bound
by the deadline all the same.

Main definitions:

* `checkWorld` — the world of a check;
* `MakesCheck` — a check is made;
* `runThrough` — what comes of a wait that ends with a check;
* `Timely` — what the deadline promises of a wait.

Main results:

* `MakesCheck.clock_le`, `MakesCheck.le_ceilDiv` — no check is made after the deadline, and only so
  many fit before it;
* `Checks.getElem_eq` — the checks of a wait are the ones that are counted;
* `waitUntil?_eq_some_iff` — a wait ends if there is a last check, and with that one;
* `run_waitUntil_of_last` — what the operation comes to then;
* `timely_waitUntil` — **a wait keeps its deadline**.
-/

import Mathlib.Algebra.Order.Floor.Div
import WebDriverClient.Browsing.Rehearsal
import WebDriverClient.Proofs.Browsing.Polling

set_option autoImplicit false

namespace WebDriverClient

variable {σ α : Type}

/-! ### The checks, one by one -/

section

variable (check : Client σ (Poll α)) (interval deadline : Nat) (start : World σ)

/-- The world of a check, counted from zero: the one after the check before it and a pause. -/
def checkWorld : Nat → World σ
  | 0 => start
  | n + 1 =>
    afterPause check (checkWorld n)
      (min interval (deadline - (check.run (checkWorld n)).world.clock))

/-- The time at which a check ends. -/
def checkEnd (n : Nat) : Nat := (check.run (checkWorld check interval deadline start n)).world.clock

/-- What a check decides, if it decides anything. -/
def checkVerdict (n : Nat) : Option (Except Failure α) :=
  Poll.verdict (check.run (checkWorld check interval deadline start n)).outcome

/-- A check is made: the ones before it decide nothing, and there is time left when they end. -/
def MakesCheck (n : Nat) : Prop :=
  ∀ m < n, checkVerdict check interval deadline start m = none ∧
    checkEnd check interval deadline start m < deadline

variable {check interval deadline start} {n : Nat}

theorem makesCheck_zero : MakesCheck check interval deadline start 0 := nofun

/-- One more check is made if the last one decides nothing and leaves time. -/
theorem makesCheck_succ_iff :
    MakesCheck check interval deadline start (n + 1) ↔
      MakesCheck check interval deadline start n ∧
        checkVerdict check interval deadline start n = none ∧
        checkEnd check interval deadline start n < deadline :=
  Nat.forall_lt_succ_right

theorem clock_checkWorld_succ :
    (checkWorld check interval deadline start (n + 1)).clock =
      checkEnd check interval deadline start n +
        min interval (deadline - checkEnd check interval deadline start n) := rfl

/-- **No check is made after the deadline.** -/
theorem MakesCheck.clock_le (made : MakesCheck check interval deadline start n)
    (starts : start.clock ≤ deadline) :
    (checkWorld check interval deadline start n).clock ≤ deadline := by
  cases n with
  | zero => exact starts
  | succ n =>
      have left := (makesCheck_succ_iff.1 made).2.2
      rw [clock_checkWorld_succ]
      omega

/-- Until the deadline is reached, no pause is shorter than the interval. -/
theorem MakesCheck.le_clock (advances : check.Advances)
    (made : MakesCheck check interval deadline start n) :
    start.clock + n * interval ≤ (checkWorld check interval deadline start n).clock ∨
      deadline ≤ (checkWorld check interval deadline start n).clock := by
  induction n with
  | zero => exact .inl (by rw [Nat.zero_mul]; exact Nat.le_refl _)
  | succ n ih =>
      obtain ⟨made, -, left⟩ := makesCheck_succ_iff.1 made
      have later : (checkWorld check interval deadline start n).clock ≤
          checkEnd check interval deadline start n := advances _
      have pauses := ih made
      rw [clock_checkWorld_succ, Nat.succ_mul]
      omega

/-- **Only so many checks fit before the deadline** if there is an interval. -/
theorem MakesCheck.le_ceilDiv (advances : check.Advances) (positive : 0 < interval) {timeout : Nat}
    (made : MakesCheck check interval (start.clock + timeout) start n) :
    n ≤ timeout ⌈/⌉ interval := by
  cases n with
  | zero => exact Nat.zero_le _
  | succ n =>
      obtain ⟨made, -, left⟩ := makesCheck_succ_iff.1 made
      have later : (checkWorld check interval (start.clock + timeout) start n).clock ≤
          checkEnd check interval (start.clock + timeout) start n := advances _
      have pauses := made.le_clock advances
      have before : n * interval < timeout := by omega
      rw [Nat.mul_comm] at before
      exact Nat.lt_of_not_le fun few =>
        Nat.not_le.2 before ((ceilDiv_le_iff_le_mul positive).1 few)

/-! ### Waits that end -/

variable (check interval deadline start n)

/-- What comes of a wait that ends with a check. -/
def runThrough : Run σ (Option α) where
  outcome := (checkVerdict check interval deadline start n).elim (.ok none) (some <$> ·)
  trace := checksTrace check
    ((List.range (n + 1)).map (checkWorld check interval deadline start))
  world := (check.run (checkWorld check interval deadline start n)).world

variable {check interval deadline start n}

/-- The checks after the first are those of a wait that begins with the second. -/
theorem checkWorld_succ_eq (n : Nat) :
    checkWorld check interval deadline start (n + 1) =
      checkWorld check interval deadline (checkWorld check interval deadline start 1) n := by
  induction n with
  | zero => rfl
  | succ n ih =>
      have next (v : World σ) (m : Nat) : checkWorld check interval deadline v (m + 1) =
          afterPause check (checkWorld check interval deadline v m) (min interval
            (deadline - (check.run (checkWorld check interval deadline v m)).world.clock)) := rfl
      rw [next _ (n + 1), ih, next _ n]

theorem makesCheck_succ_iff_first :
    MakesCheck check interval deadline start (n + 1) ↔
      (checkVerdict check interval deadline start 0 = none ∧
        checkEnd check interval deadline start 0 < deadline) ∧
      MakesCheck check interval deadline (checkWorld check interval deadline start 1) n := by
  have rest (m : Nat) :
      checkVerdict check interval deadline start (m + 1) =
          checkVerdict check interval deadline (checkWorld check interval deadline start 1) m ∧
        checkEnd check interval deadline start (m + 1) =
          checkEnd check interval deadline (checkWorld check interval deadline start 1) m := by
    rw [checkVerdict, checkEnd, checkWorld_succ_eq]
    exact ⟨rfl, rfl⟩
  rw [MakesCheck, Nat.forall_lt_succ_left]
  simp only [rest]
  exact Iff.rfl

theorem runThrough_succ :
    runThrough check interval deadline start (n + 1) =
      { runThrough check interval deadline (checkWorld check interval deadline start 1) n with
        trace := .check start.clock :: (check.run start).trace ++
          (runThrough check interval deadline
            (checkWorld check interval deadline start 1) n).trace } := by
  have worlds : (List.range (n + 1 + 1)).map (checkWorld check interval deadline start) =
      start :: (List.range (n + 1)).map
        (checkWorld check interval deadline (checkWorld check interval deadline start 1)) := by
    rw [List.range_succ_eq_map, List.map_cons, List.map_map]
    exact congrArg _ (List.map_congr_left fun i _ => checkWorld_succ_eq i)
  rw [runThrough, worlds, checksTrace_cons, checkVerdict, checkWorld_succ_eq]
  rfl

/-- **A wait ends with the last check that is made.** -/
theorem waits_of_last (made : MakesCheck check interval deadline start n)
    (last : ¬ MakesCheck check interval deadline start (n + 1)) :
    Waits check interval deadline start (runThrough check interval deadline start n) := by
  induction n generalizing start with
  | zero =>
      have alone : runThrough check interval deadline start 0 =
          ⟨(Poll.verdict (check.run start).outcome).elim (.ok none) (some <$> ·),
            .check start.clock :: (check.run start).trace, (check.run start).world⟩ := by
        have only : (List.range (0 + 1)).map (checkWorld check interval deadline start) = [start] :=
          rfl
        rw [runThrough, only, checksTrace_singleton]
        rfl
      rw [alone]
      cases hd : Poll.verdict (check.run start).outcome with
      | some verdict => exact .decided hd
      | none =>
          exact .expired hd (Nat.not_lt.1 fun left => last (makesCheck_succ_iff.2 ⟨made, hd, left⟩))
  | succ n ih =>
      obtain ⟨⟨undecided, left⟩, made⟩ := makesCheck_succ_iff_first.1 made
      rw [runThrough_succ]
      exact .paused undecided left
        (ih made fun more => last (makesCheck_succ_iff_first.2 ⟨⟨undecided, left⟩, more⟩))

/-! ### The checks of a wait -/

variable {earlier : List (World σ)} {last : World σ} {r : Run σ (Option α)}

theorem Checks.getElem_zero (checks : Checks check interval deadline start earlier last r)
    (hi : 0 < (earlier ++ [last]).length) : (earlier ++ [last])[0] = start := by
  have first := checks.first
  rw [List.head?_eq_getElem?, List.getElem?_eq_getElem hi] at first
  exact Option.some.inj first

/-- **The checks of a wait are the ones that are counted.** -/
theorem Checks.getElem_eq (checks : Checks check interval deadline start earlier last r) (i : Nat)
    (hi : i < (earlier ++ [last]).length) :
    (earlier ++ [last])[i] = checkWorld check interval deadline start i := by
  induction i with
  | zero => exact checks.getElem_zero hi
  | succ i ih =>
      have next := (List.isChain_iff_getElem.1 checks.next i hi).2
      rw [next, ih (Nat.lt_of_succ_lt hi), checkWorld]

theorem Checks.eq_map (checks : Checks check interval deadline start earlier last r) :
    earlier ++ [last] =
      (List.range (earlier.length + 1)).map (checkWorld check interval deadline start) := by
  refine List.ext_getElem (by simp) fun i hi _ => ?_
  rw [checks.getElem_eq i hi]
  simp

theorem Checks.last_eq (checks : Checks check interval deadline start earlier last r) :
    last = checkWorld check interval deadline start earlier.length := by
  have at_end := checks.getElem_eq earlier.length (by simp)
  simpa using at_end

/-- The checks before the last leave it to be made. -/
theorem Checks.makesCheck (checks : Checks check interval deadline start earlier last r) :
    MakesCheck check interval deadline start earlier.length := by
  intro m hm
  have next : m + 1 < (earlier ++ [last]).length := by simpa using hm
  have early := (List.isChain_iff_getElem.1 checks.next m next).1
  have world := checks.getElem_eq m (Nat.lt_of_succ_lt next)
  have undecided := checks.undecided _ (List.getElem_mem hm)
  rw [world] at early
  rw [List.getElem_append_left hm] at world
  rw [world] at undecided
  exact ⟨undecided, early⟩

/-- None is made after the last. -/
theorem Checks.not_makesCheck (checks : Checks check interval deadline start earlier last r) :
    ¬ MakesCheck check interval deadline start (earlier.length + 1) := by
  intro made
  obtain ⟨undecided, left⟩ := (makesCheck_succ_iff.1 made).2
  rw [checkVerdict, ← checks.last_eq] at undecided
  rw [checkEnd, ← checks.last_eq] at left
  exact Nat.not_le.2 left (checks.expired undecided).2

/-- What comes of the wait is what the check that ends it leaves. -/
theorem Checks.eq_runThrough (checks : Checks check interval deadline start earlier last r) :
    r = runThrough check interval deadline start earlier.length := by
  have outcome : r.outcome =
      (Poll.verdict (check.run last).outcome).elim (.ok none) (some <$> ·) := by
    cases decided : Poll.verdict (check.run last).outcome with
    | none => exact (checks.expired decided).1
    | some verdict => exact checks.decided verdict decided
  rw [checks.last_eq] at outcome
  have trace := checks.trace
  rw [checks.eq_map] at trace
  have world := checks.world
  rw [checks.last_eq] at world
  obtain ⟨_, _, _⟩ := r
  subst outcome trace world
  rfl

/-- The checks that are made are those up to the last. -/
theorem MakesCheck.iff_le {m : Nat} (made : MakesCheck check interval deadline start n)
    (last : ¬ MakesCheck check interval deadline start (n + 1)) :
    MakesCheck check interval deadline start m ↔ m ≤ n := by
  constructor
  · intro made'
    exact Nat.le_of_not_lt fun more => last fun i hi => made' i (Nat.lt_of_lt_of_le hi more)
  · intro few i hi
    exact made i (Nat.lt_of_lt_of_le hi few)

end

/-! ### What is promised -/

/-- What the deadline promises of a wait with these checks. -/
structure Timely (check : Client σ (Poll α)) (options : WaitOptions) (start : World σ)
    (earlier : List (World σ)) (last : World σ) (r : Run σ (Option α)) : Prop where
  /-- The wait is made of these checks. -/
  checks : Checks check options.interval.nanoseconds
    (start.clock + options.timeout.nanoseconds) start earlier last r
  /-- No check is made after the deadline. -/
  punctual : ∀ v ∈ earlier ++ [last], v.clock ≤ start.clock + options.timeout.nanoseconds
  /-- The time is over only after it, and by no more than the last check takes; then no check has
  decided anything. -/
  expired : r.outcome = .ok none →
    start.clock + options.timeout.nanoseconds ≤ r.world.clock ∧
    r.world.clock ≤ start.clock + options.timeout.nanoseconds +
      ((check.run last).world.clock - last.clock) ∧
    ∀ v ∈ earlier ++ [last], Poll.Undecided (check.run v).outcome
  /-- What a check decides is what the wait ends with, at once and whatever the time is. -/
  decisive : ∀ before v after verdict, earlier ++ [last] = before ++ v :: after →
    Poll.verdict (check.run v).outcome = some verdict →
      after = [] ∧ r.outcome = some <$> verdict ∧ r.world = (check.run v).world
  /-- There are at most as many pauses as intervals begin before the deadline. -/
  few : 0 < options.interval.nanoseconds →
    (earlier ++ [last]).length ≤ options.timeout.nanoseconds ⌈/⌉ options.interval.nanoseconds + 1

section

variable {check : Client σ (Poll α)} {interval deadline : Nat} {start last : World σ}
  {earlier : List (World σ)} {r : Run σ (Option α)}

theorem Checks.clock_le (checks : Checks check interval deadline start earlier last r)
    (starts : start.clock ≤ deadline) : ∀ v ∈ earlier ++ [last], v.clock ≤ deadline := by
  intro v hv
  obtain ⟨i, hi, rfl⟩ := List.getElem_of_mem hv
  cases i with
  | zero => exact (checks.getElem_zero hi).symm ▸ starts
  | succ i =>
      obtain ⟨early, next⟩ := List.isChain_iff_getElem.1 checks.next i hi
      rw [next, afterPause]
      dsimp only
      omega

/-- A wait whose time is over has had no check that decides. -/
theorem Checks.undecided_of_expired (checks : Checks check interval deadline start earlier last r)
    (expired : r.outcome = .ok none) :
    ∀ v ∈ earlier ++ [last], Poll.verdict (check.run v).outcome = none := by
  intro v hv
  rcases List.mem_append.1 hv with hv | hv
  · exact checks.undecided v hv
  · rw [List.mem_singleton.1 hv]
    cases decided : Poll.verdict (check.run last).outcome with
    | none => rfl
    | some verdict =>
        have outcome := checks.decided verdict decided
        rw [expired] at outcome
        cases verdict <;> cases outcome

/-- A check that decides is the last one. -/
theorem Checks.eq_nil_of_decided (checks : Checks check interval deadline start earlier last r)
    {before after : List (World σ)} {v : World σ} {verdict : Except Failure α}
    (split : earlier ++ [last] = before ++ v :: after)
    (decided : Poll.verdict (check.run v).outcome = some verdict) : after = [] ∧ v = last := by
  rcases List.eq_nil_or_concat after with rfl | ⟨rest, other, rfl⟩
  · exact ⟨rfl, (List.append_singleton_inj.1 split).2.symm⟩
  · have first : earlier = before ++ v :: rest := by
      rw [List.concat_eq_append, ← List.cons_append, ← List.append_assoc] at split
      exact (List.append_singleton_inj.1 split).1
    have undecided := checks.undecided v (by simp [first])
    rw [decided] at undecided
    cases undecided

end

/-- **Checks that make up a wait keep its deadline.** -/
theorem Checks.timely {check : Client σ (Poll α)} (advances : check.Advances)
    {options : WaitOptions} {start last : World σ} {earlier : List (World σ)}
    {r : Run σ (Option α)}
    (checks : Checks check options.interval.nanoseconds
      (start.clock + options.timeout.nanoseconds) start earlier last r) :
    Timely check options start earlier last r := by
  have punctual := checks.clock_le (Nat.le_add_right _ _)
  refine ⟨checks, punctual, ?_, ?_, ?_⟩
  · intro expired
    have undecided := checks.undecided_of_expired expired
    have at_end : last ∈ earlier ++ [last] := by simp
    have begins := punctual last at_end
    have ends := advances last
    rw [checks.world]
    exact ⟨(checks.expired (undecided last at_end)).2, by omega,
      fun v hv => Poll.verdict_eq_none_iff.1 (undecided v hv)⟩
  · intro before v after verdict split decided
    obtain ⟨rfl, rfl⟩ := checks.eq_nil_of_decided split decided
    exact ⟨rfl, checks.decided verdict decided, checks.world⟩
  · intro positive
    rw [List.length_append, List.length_singleton]
    exact Nat.succ_le_succ (checks.makesCheck.le_ceilDiv advances positive)

/-- **A wait ends if there is a last check, and with that one.** -/
theorem waitUntil?_eq_some_iff {check : Client σ (Poll α)} {options : WaitOptions}
    {start : World σ} {r : Run σ (Option α)} :
    waitUntil? check options start = some r ↔
      ∃ n, MakesCheck check options.interval.nanoseconds
          (start.clock + options.timeout.nanoseconds) start n ∧
        ¬ MakesCheck check options.interval.nanoseconds
          (start.clock + options.timeout.nanoseconds) start (n + 1) ∧
        r = runThrough check options.interval.nanoseconds
          (start.clock + options.timeout.nanoseconds) start n := by
  rw [waitUntil?, World.waitFrom?_eq_some_iff]
  constructor
  · intro waits
    obtain ⟨earlier, last, checks⟩ := waits.exists_checks
    exact ⟨earlier.length, checks.makesCheck, checks.not_makesCheck, checks.eq_runThrough⟩
  · rintro ⟨n, made, last, rfl⟩
    exact waits_of_last made last

/-- The operation comes to what the last check leaves. -/
theorem run_waitUntil_of_last {check : Client σ (Poll α)} {options : WaitOptions}
    {start : World σ} {n : Nat}
    (made : MakesCheck check options.interval.nanoseconds
      (start.clock + options.timeout.nanoseconds) start n)
    (last : ¬ MakesCheck check options.interval.nanoseconds
      (start.clock + options.timeout.nanoseconds) start (n + 1)) :
    (waitUntil check options).run start =
      runThrough check options.interval.nanoseconds
        (start.clock + options.timeout.nanoseconds) start n :=
  run_waitUntil_of_some (waitUntil?_eq_some_iff.2 ⟨n, made, last, rfl⟩)

/-- A wait with an interval ends with some check. -/
theorem exists_run_waitUntil {check : Client σ (Poll α)} (advances : check.Advances)
    (options : WaitOptions) (positive : 0 < options.interval.nanoseconds) (start : World σ) :
    ∃ n, MakesCheck check options.interval.nanoseconds
        (start.clock + options.timeout.nanoseconds) start n ∧
      ¬ MakesCheck check options.interval.nanoseconds
        (start.clock + options.timeout.nanoseconds) start (n + 1) ∧
      (waitUntil check options).run start =
        runThrough check options.interval.nanoseconds
          (start.clock + options.timeout.nanoseconds) start n := by
  obtain ⟨r, ended⟩ := Option.isSome_iff_exists.1
    (World.isSome_waitFrom? advances options.interval.nanoseconds
      (start.clock + options.timeout.nanoseconds) start (.inl positive))
  rw [run_waitUntil_of_some ended]
  exact waitUntil?_eq_some_iff.1 ended

/-- **A wait keeps its deadline**, whatever time its checks take.  The first part speaks of all
checks that are made, also if the wait never ends; the second says that a wait ends if there is a
last one, and what comes of it then; the third says what the deadline promises of a wait that ends,
and the last that a wait with pauses does. -/
theorem timely_waitUntil {check : Client σ (Poll α)} (advances : check.Advances)
    (options : WaitOptions) (start : World σ) :
    let interval := options.interval.nanoseconds
    let timeout := options.timeout.nanoseconds
    let deadline := start.clock + timeout
    (∀ n, MakesCheck check interval deadline start n →
      (checkWorld check interval deadline start n).clock ≤ deadline ∧
      (0 < interval → n + 1 ≤ timeout ⌈/⌉ interval + 1)) ∧
    (∀ r, waitUntil? check options start = some r ↔
      ∃ n, MakesCheck check interval deadline start n ∧
        ¬ MakesCheck check interval deadline start (n + 1) ∧
        r = runThrough check interval deadline start n) ∧
    (∀ r, waitUntil? check options start = some r →
      (waitUntil check options).run start = r ∧
      ∃ earlier last, Timely check options start earlier last r) ∧
    (0 < interval → (waitUntil? check options start).isSome) := by
  intro interval timeout deadline
  refine ⟨fun n made => ⟨made.clock_le (Nat.le_add_right _ _), fun positive =>
      Nat.succ_le_succ (made.le_ceilDiv advances positive)⟩,
    fun r => waitUntil?_eq_some_iff, ?_,
    fun positive => World.isSome_waitFrom? advances _ _ _ (.inl positive)⟩
  intro r ended
  obtain ⟨earlier, last, checks⟩ := (World.waitFrom?_eq_some_iff.1 ended).exists_checks
  exact ⟨run_waitUntil_of_some ended, earlier, last, checks.timely advances⟩

/-- A rehearsed check takes the time that it is given. -/
theorem Rehearsal.advances_check (script : Nat → Rehearsal.Check α) :
    (Rehearsal.check script).Advances := fun w => Nat.le_add_right w.clock _

/-- Checks that take no time, of which the third is ready. -/
def Rehearsal.thirdScript : Nat → Rehearsal.Check Nat
  | 0 | 1 => ⟨.ok .pending, 0⟩
  | _ => ⟨.ok (.ready 7), 0⟩

/-- A wait without pauses whose checks take no time ends with the one that decides, before a
nanosecond is over. -/
theorem timely_waitUntil_instant :
    ∃ r, waitUntil? (Rehearsal.check Rehearsal.thirdScript) ⟨⟨1⟩, ⟨0⟩⟩ { remote := 0 } = some r ∧
      r.outcome = .ok (some 7) ∧ r.world.clock = 0 ∧ r.world.remote = 3 ∧
      ∃ earlier last, Timely (Rehearsal.check Rehearsal.thirdScript) ⟨⟨1⟩, ⟨0⟩⟩ { remote := 0 }
        earlier last r := by
  have advances := Rehearsal.advances_check Rehearsal.thirdScript
  obtain ⟨-, ends, timely, -⟩ := timely_waitUntil advances ⟨⟨1⟩, ⟨0⟩⟩ { remote := 0 }
  have made : MakesCheck (Rehearsal.check Rehearsal.thirdScript) 0 1 { remote := 0 } 2 := by
    intro m hm
    match m, hm with
    | 0, _ => exact ⟨rfl, Nat.one_pos⟩
    | 1, _ => exact ⟨rfl, Nat.one_pos⟩
  have last : ¬ MakesCheck (Rehearsal.check Rehearsal.thirdScript) 0 1 { remote := 0 } 3 := by
    intro more
    have undecided := (more 2 (by decide)).1
    cases undecided
  have ended := (ends _).2 ⟨2, made, last, rfl⟩
  exact ⟨_, ended, rfl, rfl, rfl, (timely _ ended).2⟩

end WebDriverClient
