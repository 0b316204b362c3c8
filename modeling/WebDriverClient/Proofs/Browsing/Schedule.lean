/-
**Waits with rehearsed checks.**

The outcome of a rehearsed check and the time that it takes are known beforehand by its number.
Then the times at which a wait checks its condition can be told: checks that take no time are an
interval apart, and if none decides anything the last of them stands at the deadline.  A wait with a
later deadline makes the same checks first, so it comes to the same result if there is one.

Main definitions:

* `checkTimes` — the times of the checks in a trace;
* `Alike` — checks that decide the same;
* `instantly` — checks that take no time;
* `WaitOptions.offset`, `WaitOptions.Due` — when such a check is made, if there is time for it.

Main results:

* `waitUntil_congr` — a wait sees of its checks what they decide and nothing else;
* `MakesCheck.of_le` — with a later deadline the same checks are made;
* `waitUntil_schedule` — **the times of checks that take no time**;
* `waitUntil_longer` — **a longer timeout loses no result**.
-/

import WebDriverClient.Proofs.Browsing.Deadline

set_option autoImplicit false

namespace WebDriverClient

variable {σ α : Type}

/-- The times of the checks in a trace. -/
def checkTimes (t : List Event) : List Nat :=
  t.filterMap fun
    | .check time => some time
    | _ => none

/-! ### What a wait sees of its checks -/

section

variable {check check' : Client σ (Poll α)}

/-- The checks decide the same everywhere, and nothing else of them tells them apart. -/
def Alike (check check' : Client σ (Poll α)) : Prop :=
  ∀ v, Poll.verdict (check.run v).outcome = Poll.verdict (check'.run v).outcome ∧
    (check.run v).trace = (check'.run v).trace ∧ (check.run v).world = (check'.run v).world

theorem Alike.symm (alike : Alike check check') : Alike check' check := fun v =>
  ⟨(alike v).1.symm, (alike v).2.1.symm, (alike v).2.2.symm⟩

theorem Waits.congr (alike : Alike check check') {interval deadline : Nat} {v : World σ}
    {r : Run σ (Option α)} (h : Waits check interval deadline v r) :
    Waits check' interval deadline v r := by
  induction h with
  | @decided v verdict decides =>
      obtain ⟨verdicts, traces, worlds⟩ := alike v
      rw [traces, worlds]
      exact .decided (verdicts ▸ decides)
  | @expired v undecided late =>
      obtain ⟨verdicts, traces, worlds⟩ := alike v
      rw [traces, worlds]
      exact .expired (verdicts ▸ undecided) (worlds ▸ late)
  | @paused v r undecided early _ ih =>
      obtain ⟨verdicts, traces, worlds⟩ := alike v
      rw [afterPause, worlds] at ih
      rw [traces]
      exact .paused (verdicts ▸ undecided) (worlds ▸ early) ih

/-- **A wait sees of its checks what they decide and nothing else.** -/
theorem waitUntil_congr (alike : Alike check check') (options : WaitOptions) :
    waitUntil check options = waitUntil check' options := by
  have same (options : WaitOptions) (v : World σ) :
      waitUntil? check options v = waitUntil? check' options v := by
    refine Option.ext fun r => ?_
    rw [waitUntil?, waitUntil?, World.waitFrom?_eq_some_iff, World.waitFrom?_eq_some_iff]
    exact ⟨.congr alike, .congr alike.symm⟩
  funext v
  rw [waitUntil, waitUntil, same, same]

end

/-! ### Rehearsed checks -/

section

variable {script script' : Nat → Rehearsal.Check α} {interval deadline : Nat} {start : World Nat}

/-- Rehearsed checks that decide the same and take the same time cannot be told apart. -/
theorem alike_rehearsed
    (verdict : ∀ n, Poll.verdict (script n).outcome = Poll.verdict (script' n).outcome)
    (cost : ∀ n, (script n).cost = (script' n).cost) :
    Alike (Rehearsal.check script) (Rehearsal.check script') := by
  intro v
  have world (s : Nat → Rehearsal.Check α) : ((Rehearsal.check s).run v).world =
      { v with remote := v.remote + 1, clock := v.clock + (s v.remote).cost } := rfl
  exact ⟨verdict v.remote, rfl, by rw [world, world, cost]⟩

theorem remote_checkWorld (n : Nat) :
    (checkWorld (Rehearsal.check script) interval deadline start n).remote = start.remote + n := by
  induction n with
  | zero => rfl
  | succ n ih =>
      have next : (checkWorld (Rehearsal.check script) interval deadline start (n + 1)).remote =
          (checkWorld (Rehearsal.check script) interval deadline start n).remote + 1 := rfl
      rw [next, ih, Nat.add_assoc]

/-- What a rehearsed check decides depends on its number only. -/
theorem checkVerdict_rehearsed (n : Nat) :
    checkVerdict (Rehearsal.check script) interval deadline start n =
      Poll.verdict (script (start.remote + n)).outcome := by
  have number : (checkWorld (Rehearsal.check script) interval deadline start n).remote =
      start.remote + n := remote_checkWorld n
  rw [← number]
  rfl

theorem checkEnd_rehearsed (n : Nat) :
    checkEnd (Rehearsal.check script) interval deadline start n =
      (checkWorld (Rehearsal.check script) interval deadline start n).clock +
        (script (start.remote + n)).cost := by
  have number : (checkWorld (Rehearsal.check script) interval deadline start n).remote =
      start.remote + n := remote_checkWorld n
  rw [← number]
  rfl

/-- Nothing happens in a rehearsed wait but its checks. -/
theorem checkTimes_checksTrace (worlds : List (World Nat)) :
    checkTimes (checksTrace (Rehearsal.check script) worlds) = worlds.map World.clock := by
  induction worlds with
  | nil => rfl
  | cons v worlds ih =>
      have first (rest : List Event) :
          checkTimes (.check v.clock :: ((Rehearsal.check script).run v).trace ++ rest) =
            v.clock :: checkTimes rest := rfl
      rw [checksTrace_cons, first, ih, List.map_cons]

theorem checkTimes_runThrough (n : Nat) :
    checkTimes (runThrough (Rehearsal.check script) interval deadline start n).trace =
      (List.range (n + 1)).map fun i =>
        (checkWorld (Rehearsal.check script) interval deadline start i).clock := by
  rw [runThrough, checkTimes_checksTrace, List.map_map]
  rfl

end

/-! ### Checks that take no time -/

/-- Checks that take no time and have these outcomes. -/
def instantly (outcomes : Nat → Except Failure (Poll α)) : Client Nat (Poll α) :=
  Rehearsal.check fun n => ⟨outcomes n, 0⟩

namespace WaitOptions

variable (o : WaitOptions)

/-- How long after the start a check that takes no time is made, counted from zero. -/
def offset (i : Nat) : Nat := min (i * o.interval.nanoseconds) o.timeout.nanoseconds

/-- Such a check is due if it is the first or the one before it is made before the deadline. -/
def Due (i : Nat) : Prop := i = 0 ∨ (i - 1) * o.interval.nanoseconds < o.timeout.nanoseconds

/-- The last one that is due is made when the time is over. -/
theorem eq_ceilDiv_of_due {n : Nat} (positive : 0 < o.interval.nanoseconds) (due : o.Due n)
    (ended : o.timeout.nanoseconds ≤ n * o.interval.nanoseconds) :
    n = o.timeout.nanoseconds ⌈/⌉ o.interval.nanoseconds := by
  refine Nat.le_antisymm ?_ ((ceilDiv_le_iff_le_mul positive).2 (by rwa [Nat.mul_comm]))
  rcases due with rfl | before
  · exact Nat.zero_le _
  · have more : n - 1 < o.timeout.nanoseconds ⌈/⌉ o.interval.nanoseconds := by
      refine Nat.lt_of_not_le fun few => Nat.not_le.2 before ?_
      rw [Nat.mul_comm]
      exact (ceilDiv_le_iff_le_mul positive).1 few
    omega

end WaitOptions

section

variable {outcomes : Nat → Except Failure (Poll α)} {options : WaitOptions} {start : World Nat}

/-- **Checks that take no time are an interval apart**, up to the deadline. -/
theorem clock_instantly (n : Nat) :
    (checkWorld (instantly outcomes) options.interval.nanoseconds
      (start.clock + options.timeout.nanoseconds) start n).clock =
        start.clock + options.offset n := by
  induction n with
  | zero => rw [WaitOptions.offset, Nat.zero_mul, Nat.zero_min]; rfl
  | succ n ih =>
      have ends : checkEnd (instantly outcomes) options.interval.nanoseconds
          (start.clock + options.timeout.nanoseconds) start n =
            (checkWorld (instantly outcomes) options.interval.nanoseconds
              (start.clock + options.timeout.nanoseconds) start n).clock := checkEnd_rehearsed n
      rw [clock_checkWorld_succ, ends, ih, WaitOptions.offset, WaitOptions.offset, Nat.succ_mul]
      omega

theorem checkVerdict_instantly (first : start.remote = 0) (n : Nat) :
    checkVerdict (instantly outcomes) options.interval.nanoseconds
      (start.clock + options.timeout.nanoseconds) start n = Poll.verdict (outcomes n) := by
  have numbered : checkVerdict (instantly outcomes) options.interval.nanoseconds
      (start.clock + options.timeout.nanoseconds) start n =
        Poll.verdict (outcomes (start.remote + n)) := checkVerdict_rehearsed n
  rwa [first, Nat.zero_add] at numbered

/-- Such a check is made if it is due and none before it decides anything. -/
theorem makesCheck_instantly_iff (first : start.remote = 0) (n : Nat) :
    MakesCheck (instantly outcomes) options.interval.nanoseconds
        (start.clock + options.timeout.nanoseconds) start n ↔
      options.Due n ∧ ∀ m < n, Poll.verdict (outcomes m) = none := by
  have ends (m : Nat) : checkEnd (instantly outcomes) options.interval.nanoseconds
      (start.clock + options.timeout.nanoseconds) start m = start.clock + options.offset m :=
    (checkEnd_rehearsed m).trans (clock_instantly m)
  simp only [MakesCheck, ends, checkVerdict_instantly first, WaitOptions.offset]
  constructor
  · intro made
    refine ⟨?_, fun m hm => (made m hm).1⟩
    cases n with
    | zero => exact .inl rfl
    | succ n =>
        have last := (made n (Nat.lt_succ_self n)).2
        exact .inr (by rw [Nat.add_sub_cancel]; omega)
  · rintro ⟨due, undecided⟩ m hm
    refine ⟨undecided m hm, ?_⟩
    rcases due with rfl | due
    · cases hm
    · -- The checks before the last are made no later than the one before it.
      have order : m * options.interval.nanoseconds ≤ (n - 1) * options.interval.nanoseconds :=
        Nat.mul_le_mul_right _ (by omega)
      omega

/-- The checks of a wait that take no time are those that are due, up to the first that decides; the
wait ends with the last of them. -/
theorem exists_run_instantly (outcomes : Nat → Except Failure (Poll α))
    (positive : 0 < options.interval.nanoseconds) (first : start.remote = 0) :
    let r := (waitUntil (instantly outcomes) options).run start
    ∃ n, (∀ i, i ≤ n ↔ options.Due i ∧ ∀ j < i, Poll.verdict (outcomes j) = none) ∧
      checkTimes r.trace = (List.range (n + 1)).map (fun i => start.clock + options.offset i) ∧
      r.outcome = (Poll.verdict (outcomes n)).elim (.ok none) (some <$> ·) ∧
      r.world.clock = start.clock + options.offset n := by
  intro r
  have advances : (instantly outcomes).Advances := Rehearsal.advances_check _
  obtain ⟨n, made, last, run⟩ := exists_run_waitUntil advances options positive start
  refine ⟨n, fun i => ?_, ?_, ?_, ?_⟩
  · rw [← makesCheck_instantly_iff first, made.iff_le last]
  · rw [show r = _ from run]
    exact (checkTimes_runThrough n).trans (List.map_congr_left fun i _ => clock_instantly i)
  · rw [show r = _ from run, runThrough, checkVerdict_instantly first]
  · rw [show r = _ from run]
    exact (checkEnd_rehearsed n).trans (clock_instantly n)

/-- Checks that decide nothing can be exchanged for one another. -/
theorem waitUntil_exchanged {outcomes' : Nat → Except Failure (Poll α)}
    (exchanged : ∀ n, outcomes' n = outcomes n ∨
      Poll.Undecided (outcomes' n) ∧ Poll.Undecided (outcomes n)) :
    waitUntil (instantly outcomes') options = waitUntil (instantly outcomes) options := by
  have verdict (n : Nat) : Poll.verdict (outcomes' n) = Poll.verdict (outcomes n) := by
    rcases exchanged n with same | ⟨left, right⟩
    · rw [same]
    · rw [Poll.verdict_eq_none_iff.2 left, Poll.verdict_eq_none_iff.2 right]
  have alike : Alike (instantly outcomes') (instantly outcomes) :=
    alike_rehearsed verdict fun _ => rfl
  exact waitUntil_congr alike options

/-- **The times of checks that take no time**, and what the wait comes to.  The checks that are made
are the ones that are due, up to the first that decides.  If none does, the wait ends at its
deadline. -/
theorem waitUntil_schedule (outcomes : Nat → Except Failure (Poll α)) (options : WaitOptions)
    (start : World Nat) (positive : 0 < options.interval.nanoseconds) (first : start.remote = 0) :
    let r := (waitUntil (instantly outcomes) options).run start
    ∃ count, checkTimes r.trace =
        (List.range count).map (fun i => start.clock + options.offset i) ∧
      (∀ i, i < count ↔ options.Due i ∧ ∀ j < i, Poll.verdict (outcomes j) = none) ∧
      (∀ k verdict, options.Due k → (∀ j < k, Poll.verdict (outcomes j) = none) →
        Poll.verdict (outcomes k) = some verdict →
          count = k + 1 ∧ r.outcome = some <$> verdict ∧
            r.world.clock = start.clock + options.offset k) ∧
      ((∀ k, options.Due k → (∀ j < k, Poll.verdict (outcomes j) = none) →
        Poll.verdict (outcomes k) = none) →
          count = options.timeout.nanoseconds ⌈/⌉ options.interval.nanoseconds + 1 ∧
            r.outcome = .ok none ∧
            r.world.clock = start.clock + options.timeout.nanoseconds) ∧
      ∀ outcomes', (∀ n, outcomes' n = outcomes n ∨
          Poll.Undecided (outcomes' n) ∧ Poll.Undecided (outcomes n)) →
        (waitUntil (instantly outcomes') options).run start = r := by
  intro r
  obtain ⟨n, made, times, outcome, clock⟩ := exists_run_instantly outcomes positive first
  obtain ⟨due, undecided⟩ := (made n).1 (Nat.le_refl n)
  refine ⟨n + 1, times, fun i => Nat.lt_succ_iff.trans (made i), ?_, ?_, ?_⟩
  · intro k verdict due' undecided' decided
    have before : k ≤ n := (made k).2 ⟨due', undecided'⟩
    have last : n = k := by
      refine Nat.le_antisymm (Nat.le_of_not_lt fun more => ?_) before
      rw [undecided k more] at decided
      cases decided
    subst last
    exact ⟨rfl, by rw [outcome, decided]; rfl, clock⟩
  · intro never
    -- The last check is due and decides nothing, so there would be another if there were time left.
    have nothing := never n due undecided
    have ended : options.timeout.nanoseconds ≤ n * options.interval.nanoseconds := by
      refine Nat.le_of_not_lt fun left => Nat.not_succ_le_self n ((made (n + 1)).2 ⟨.inr left, ?_⟩)
      exact Nat.forall_lt_succ_right.2 ⟨undecided, nothing⟩
    refine ⟨congrArg (· + 1) (options.eq_ceilDiv_of_due positive due ended), ?_, ?_⟩
    · rw [outcome, nothing]
      rfl
    · rw [clock, WaitOptions.offset, Nat.min_eq_right ended]
  · intro outcomes' exchanged
    rw [waitUntil_exchanged exchanged]

/-- A timeout of five nanoseconds and checks that are three apart: the third, which decides, is made
when the time is over. -/
theorem waitUntil_schedule_third_check :
    let outcomes : Nat → Except Failure (Poll Bool) := fun n =>
      if n = 2 then .ok (.ready true) else .ok .pending
    let r := (waitUntil (instantly outcomes) ⟨⟨5⟩, ⟨3⟩⟩).run { remote := 0, clock := 100 }
    checkTimes r.trace = [100, 103, 105] ∧ r.outcome = .ok (some true) ∧ r.world.clock = 105 := by
  intro outcomes r
  obtain ⟨count, times, -, decided, -, -⟩ :=
    waitUntil_schedule outcomes ⟨⟨5⟩, ⟨3⟩⟩ { remote := 0, clock := 100 } (by decide) rfl
  have undecided (j : Nat) (before : j < 2) : Poll.verdict (outcomes j) = none := by
    match j, before with
    | 0, _ => rfl
    | 1, _ => rfl
  obtain ⟨rfl, outcome, clock⟩ := decided 2 (.ok true) (.inr (by decide)) undecided rfl
  exact ⟨times, outcome, clock⟩

end

/-! ### Longer timeouts -/

section

variable {check : Client σ (Poll α)} {interval short long n : Nat} {start : World σ}

/-- **With a later deadline the same checks are made**, and in the same worlds but for one that
stood at the deadline. -/
theorem MakesCheck.of_le (advances : check.Advances) (later : short ≤ long)
    (made : MakesCheck check interval short start n) :
    MakesCheck check interval long start n ∧
      ((checkWorld check interval short start n).clock < short →
        checkWorld check interval long start n = checkWorld check interval short start n) := by
  induction n with
  | zero => exact ⟨makesCheck_zero, fun _ => rfl⟩
  | succ n ih =>
      obtain ⟨made, undecided, left⟩ := makesCheck_succ_iff.1 made
      obtain ⟨made', same⟩ := ih made
      have before : (checkWorld check interval short start n).clock ≤
          checkEnd check interval short start n := advances _
      have world := same (Nat.lt_of_le_of_lt before left)
      have verdict : checkVerdict check interval long start n =
          checkVerdict check interval short start n := by rw [checkVerdict, world, checkVerdict]
      have ends : checkEnd check interval long start n =
          checkEnd check interval short start n := by rw [checkEnd, world, checkEnd]
      refine ⟨makesCheck_succ_iff.2 ⟨made', verdict.trans undecided, by omega⟩, fun inside => ?_⟩
      -- A check before the deadline follows a whole pause, and so does the other.
      rw [clock_checkWorld_succ] at inside
      have pause : min interval (long - checkEnd check interval long start n) =
          min interval (short - checkEnd check interval short start n) := by omega
      exact congrArg₂ (afterPause check) world pause

end

/-- **A longer timeout loses no result.**  Whatever a wait with rehearsed checks comes to, a longer
one comes to it as well and after as many checks; and it never makes fewer. -/
theorem waitUntil_longer (script : Nat → Rehearsal.Check α) (interval short long : Duration)
    (start : World Nat) (positive : 0 < interval.nanoseconds)
    (longer : short.nanoseconds ≤ long.nanoseconds) :
    let brief := (waitUntil (Rehearsal.check script) ⟨short, interval⟩).run start
    let patient := (waitUntil (Rehearsal.check script) ⟨long, interval⟩).run start
    (brief.outcome ≠ .ok none →
      patient.outcome = brief.outcome ∧
        (checkTimes patient.trace).length = (checkTimes brief.trace).length) ∧
    (checkTimes brief.trace).length ≤ (checkTimes patient.trace).length := by
  intro brief patient
  have advances := Rehearsal.advances_check script
  obtain ⟨n, made, last, run⟩ :=
    exists_run_waitUntil advances ⟨short, interval⟩ positive start
  obtain ⟨n', made', last', run'⟩ :=
    exists_run_waitUntil advances ⟨long, interval⟩ positive start
  have also_made := (made.of_le advances (Nat.add_le_add_left longer _)).1
  have few : n ≤ n' := (made'.iff_le last').1 also_made
  rw [show brief = _ from run, show patient = _ from run', checkTimes_runThrough,
    checkTimes_runThrough]
  simp only [List.length_map, List.length_range, runThrough, checkVerdict_rehearsed]
  refine ⟨fun result => ?_, Nat.succ_le_succ few⟩
  have decided : Poll.verdict (script (start.remote + n)).outcome ≠ none := by
    intro undecided
    rw [undecided] at result
    exact result rfl
  -- The check that decides is the last one of the longer wait too.
  have same : n = n' := by
    refine Nat.le_antisymm few (Nat.le_of_not_lt fun more => decided ?_)
    have undecided := (made' n more).1
    rwa [checkVerdict_rehearsed] at undecided
  rw [same]
  exact ⟨rfl, rfl⟩

/-- A check that decides is made when a short time is over, and sooner after the one before it than
when there is more time. -/
def Rehearsal.driftingScript : Nat → Rehearsal.Check Nat
  | 0 => ⟨.ok .pending, 1⟩
  | _ => ⟨.ok (.ready 7), 4⟩

/-- The second check decides whenever there is time for it. -/
theorem Rehearsal.run_driftingScript (timeout : Duration) (time : 1 < timeout.nanoseconds) :
    (waitUntil (Rehearsal.check Rehearsal.driftingScript) ⟨timeout, ⟨10⟩⟩).run { remote := 0 } =
      runThrough (Rehearsal.check Rehearsal.driftingScript) 10 (0 + timeout.nanoseconds)
        { remote := 0 } 1 := by
  refine run_waitUntil_of_last (makesCheck_succ_iff.2 ⟨makesCheck_zero, rfl, ?_⟩) fun more => ?_
  · rw [Nat.zero_add]
    exact time
  · have undecided := (more 1 (Nat.lt_succ_self 1)).1
    cases undecided

theorem waitUntil_longer_drifting :
    let brief :=
      (waitUntil (Rehearsal.check Rehearsal.driftingScript) ⟨⟨5⟩, ⟨10⟩⟩).run { remote := 0 }
    let patient :=
      (waitUntil (Rehearsal.check Rehearsal.driftingScript) ⟨⟨50⟩, ⟨10⟩⟩).run { remote := 0 }
    patient.outcome = brief.outcome ∧
      (checkTimes patient.trace).length = (checkTimes brief.trace).length ∧
      checkTimes brief.trace = [0, 5] ∧ checkTimes patient.trace = [0, 11] := by
  intro brief patient
  have runs : brief = _ := Rehearsal.run_driftingScript ⟨5⟩ (by decide)
  have runs' : patient = _ := Rehearsal.run_driftingScript ⟨50⟩ (by decide)
  have result : brief.outcome ≠ .ok none := by
    rw [runs]
    exact nofun
  obtain ⟨outcome, length⟩ :=
    (waitUntil_longer Rehearsal.driftingScript ⟨10⟩ ⟨5⟩ ⟨50⟩ { remote := 0 }
      (by decide) (by decide)).1 result
  refine ⟨outcome, length, ?_, ?_⟩
  · rw [runs]
    rfl
  · rw [runs']
    rfl

end WebDriverClient
