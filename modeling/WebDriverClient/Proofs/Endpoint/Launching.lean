/-
**The processes of a launch.**

A driver that is started may fail to announce itself, and then it is killed before the next one is
started; a session that cannot be had takes its driver with it.  So at no time do two drivers of one
launch run, and after it only the driver of the session does.

Main definitions:

* `DriverProgram.ComesTo` — what comes of an attempt, by how the driver starts;
* `DriverProgram.InTurn` — attempts that are made one after the other;
* `DriverProgram.Launched` — what is known of the attempts of a launch;
* `KeepsOne` — at no time do two processes of a trace run;
* `Driver.Leaves` — which processes are left by a launch.

Main results:

* `DriverProgram.comesTo_attempt` — what comes of an attempt is decided by how the driver starts and
  what it announces;
* `DriverProgram.tries_retry`, `DriverProgram.tries_launch` — how attempts follow each other;
* `Driver.launch_leaves_last` — **a launch never has two drivers run, and leaves the last one if
  there is a session and none otherwise**.
-/

import WebDriverClient.Endpoint.Driver
import WebDriverClient.Proofs.Browsing.Teardown
import WebDriverClient.Proofs.Endpoint.Processes

set_option autoImplicit false

namespace WebDriverClient

variable {σ : Type}

/-! ### Processes that are started and killed -/

/-- Processes that are started one after the other, each killed before the next. -/
def startedAndKilled (processes : List Nat) : List Event :=
  processes.flatMap fun process => [.spawn process, .kill process]

theorem spawned_startedAndKilled (processes : List Nat) :
    spawned (startedAndKilled processes) = processes := by
  induction processes with
  | nil => rfl
  | cons process processes ih =>
      exact congrArg (process :: ·) ih

/-- None of the processes is left. -/
theorem runningAfter_startedAndKilled (processes : List Nat) :
    runningAfter [] (startedAndKilled processes) = [] := by
  induction processes with
  | nil => rfl
  | cons process processes ih =>
      have killed : runningAfter [] [.spawn process, .kill process] = [] := by
        simp [runningAfter, Event.after]
      have parts : startedAndKilled (process :: processes) =
          [.spawn process, .kill process] ++ startedAndKilled processes := rfl
      rw [parts, runningAfter_append, killed, ih]

/-- At no time do two processes of the trace run. -/
def KeepsOne (t : List Event) : Prop := ∀ u, u <+: t → (runningAfter [] u).length ≤ 1

theorem keepsOne_of_spawned {t : List Event} (h : (spawned t).length ≤ 1) : KeepsOne t := by
  rintro u ⟨later, rfl⟩
  rw [spawned_append, List.length_append] at h
  have bound := length_runningAfter_le [] u
  rw [List.length_nil] at bound
  omega

/-- What has been killed before does not count. -/
theorem KeepsOne.after {t : List Event} (h : KeepsOne t) (processes : List Nat) :
    KeepsOne (startedAndKilled processes ++ t) := by
  induction processes with
  | nil => exact h
  | cons process processes ih =>
      intro u hu
      have parts : startedAndKilled (process :: processes) ++ t =
          .spawn process :: .kill process :: (startedAndKilled processes ++ t) := rfl
      rw [parts] at hu
      cases u with
      | nil => exact Nat.zero_le 1
      | cons e u =>
          rw [List.cons_prefix_cons] at hu
          obtain ⟨rfl, hu⟩ := hu
          cases u with
          | nil => exact Nat.le_refl 1
          | cons f u =>
              rw [List.cons_prefix_cons] at hu
              obtain ⟨rfl, hu⟩ := hu
              have killed : runningAfter [] (.spawn process :: .kill process :: u) =
                  runningAfter [] u := by
                simp [runningAfter, Event.after]
              rw [killed]
              exact ih u hu

namespace DriverProgram

/-! ### One attempt -/

/-- Starting drivers has ended: those that failed are killed, and one more may run. -/
inductive Settles : Run σ (Launcher σ) → Prop
  | failed (processes : List Nat) (e : Failure) (v : World σ) :
      Settles ⟨.error e, startedAndKilled processes, v⟩
  | listening (processes : List Nat) (process : Nat) (url : Url) (v : World σ) :
      Settles ⟨.ok (launcher process url), startedAndKilled processes ++ [.spawn process], v⟩

/-- What comes of an attempt in a world, by how the driver starts and what it announces: only a
driver that cannot be started at all has no process, and the one that listens is left alone. -/
inductive ComesTo (p : DriverProgram) (w : World σ) : Start → Run σ (Launcher σ) → Prop
  | refused {reason : String} {v : World σ} :
      ComesTo p w (.refused reason) ⟨.error (.processLaunchFailed reason), [], v⟩
  | unreadable {v : World σ} :
      ComesTo p w .unreadable ⟨.error (.connection "driver output is not captured"),
        [.spawn w.started, .kill w.started], v⟩
  | exited {arrivals : List Arrival} {v : World σ}
      (h : Announcement.ofArrivals arrivals = .exited) :
      ComesTo p w (.reading arrivals) ⟨.error (.connection "driver exited before listening"),
        [.spawn w.started, .kill w.started], v⟩
  | silent {arrivals : List Arrival} {v : World σ}
      (h : Announcement.ofArrivals arrivals = .silent)
      (late : v.clock = w.clock + p.startupTimeout.nanoseconds) :
      ComesTo p w (.reading arrivals)
        ⟨.error (.connectionTimeout p.startupTimeout.milliseconds),
          [.spawn w.started, .kill w.started], v⟩
  | heard {arrivals : List Arrival} {url : Url} {v : World σ}
      (h : Announcement.ofArrivals arrivals = .heard url) :
      ComesTo p w (.reading arrivals) ⟨.ok (launcher w.started url), [.spawn w.started], v⟩

/-- A process that runs is killed before the failure. -/
theorem run_kill_fail {α : Type} {w : World σ} {process : Nat} (h : process ∈ w.running)
    (e : Failure) :
    (Client.kill process >>= fun _ => (Client.fail e : Client σ α)).run w =
      ⟨.error e, [.kill process], { w with running := w.running.filter (· ≠ process) }⟩ := by
  have killed : (Client.kill process : Client σ Unit).run w =
      ⟨.ok (), [.kill process], { w with running := w.running.filter (· ≠ process) }⟩ := if_pos h
  have outcome := congrArg Run.outcome killed
  rw [Client.run_bind_ok outcome, killed]
  rfl

/-- **What comes of an attempt** is decided by how the driver starts and what it announces. -/
theorem comesTo_attempt (p : DriverProgram) (m : Machine σ) (port : Nat) (w : World σ) :
    p.ComesTo w (m.start p.binary (p.arguments port) w.remote).1 ((p.attempt m port).run w) := by
  rcases hs : m.start p.binary (p.arguments port) w.remote with ⟨start, remote⟩
  -- The world in which the process runs, and the one in which there is none.
  let started : World σ :=
    { w with remote, started := w.started + 1, running := w.running ++ [w.started] }
  have runs : w.started ∈ started.running := List.mem_append_right _ (List.mem_singleton_self _)
  have spawn : (Client.spawn m p.binary (p.arguments port)).run w =
      if start.isRunning then ⟨.ok (w.started, start), [.spawn w.started], started⟩
      else ⟨.ok (w.started, start), [], { w with remote }⟩ := by
    simp only [Client.run, Client.spawn, hs, started]
  have outcome := congrArg Run.outcome spawn
  cases start with
  | refused reason =>
      rw [attempt, Client.run_bind_ok outcome, spawn]
      exact .refused
  | unreadable =>
      rw [attempt, Client.run_bind_ok outcome, spawn]
      simp only [Start.isRunning, if_true, run_kill_fail runs]
      exact .unreadable
  | reading arrivals =>
      rw [attempt, Client.run_bind_ok outcome, spawn]
      simp only [Start.isRunning, if_true]
      cases announced : Announcement.ofArrivals arrivals with
      | heard url => exact .heard announced
      | exited =>
          simp only [run_kill_fail runs]
          exact .exited announced
      | silent =>
          -- The time that is waited for changes nothing but the clock.
          let later := started.clock + p.startupTimeout.nanoseconds
          have slept : (Client.sleep p.startupTimeout.nanoseconds : Client σ Unit).run started =
              ⟨.ok (), [], { started with clock := later }⟩ := rfl
          have awake := congrArg Run.outcome slept
          have killed := run_kill_fail (α := Launcher σ)
            (w := { started with clock := later }) runs
            (.connectionTimeout p.startupTimeout.milliseconds)
          simp only [Client.run_bind_ok awake, slept, killed]
          exact .silent announced rfl

/-- One attempt leaves its process only if it succeeds. -/
theorem ComesTo.settles {p : DriverProgram} {w : World σ} {start : Start}
    {r : Run σ (Launcher σ)} (h : p.ComesTo w start r) : Settles r := by
  cases h with
  | refused => exact .failed [] _ _
  | unreadable | exited | silent => exact .failed [w.started] _ _
  | heard => exact .listening [] _ _ _

/-! ### Attempts that follow each other -/

/-- No attempt follows one in which the driver starts like this: it cannot be started at all, or it
is heard. -/
def Decisive (start : Start) : Prop :=
  (∃ reason, start = .refused reason) ∨
    ∃ arrivals url, start = .reading arrivals ∧ Announcement.ofArrivals arrivals = .heard url

theorem triesAgainAfter_iff {e : Failure} :
    triesAgainAfter e = true ↔ ∀ reason, e ≠ .processLaunchFailed reason := by
  cases e <;> simp [triesAgainAfter]

section

variable {p : DriverProgram} {w : World σ} {start : Start} {r : Run σ (Launcher σ)}

/-- What is decisive shows in the outcome of an attempt. -/
theorem ComesTo.decisive_iff (h : p.ComesTo w start r) :
    Decisive start ↔
      (∃ l, r.outcome = .ok l) ∨ ∃ reason, r.outcome = .error (.processLaunchFailed reason) := by
  cases h with
  | refused | unreadable => simp [Decisive]
  | exited announced | silent announced | heard announced => simp [Decisive, announced]

theorem ComesTo.not_decisive_iff (h : p.ComesTo w start r) :
    ¬Decisive start ↔ ∃ e, r.outcome = .error e ∧ triesAgainAfter e = true := by
  rw [h.decisive_iff]
  cases outcome : r.outcome with
  | ok l => simp
  | error e => simp [triesAgainAfter_iff]

end

/-- An attempt: how the driver started, and what came of the attempt. -/
structure Attempt (σ : Type) where
  start : Start
  run : Run σ (Launcher σ)

/-- The attempt at a port in a world. -/
def attemptIn (p : DriverProgram) (m : Machine σ) (port : Nat) (w : World σ) : Attempt σ where
  start := (m.start p.binary (p.arguments port) w.remote).1
  run := (p.attempt m port).run w

/-- How many attempts may be made: one at a fixed port. -/
def limit (p : DriverProgram) : Nat :=
  match p.port with
  | some _ => 1
  | none => maxAttempts

variable (p : DriverProgram) (m : Machine σ)

/-- There is a port for an attempt: the fixed one, or one that is found to be free. -/
def TakesPort (w : World σ) (port : Nat) (u : World σ) : Prop :=
  match p.port with
  | some fixed => port = fixed ∧ u = w
  | none => (Client.unusedPort m p.host).run w = ⟨.ok port, [], u⟩

/-- There is no port for an attempt: any would do, and none is found to be free. -/
def LacksPort (w : World σ) (e : Failure) (u : World σ) : Prop :=
  p.port = none ∧ (Client.unusedPort m p.host).run w = ⟨.error e, [], u⟩

/-- How a launch goes on from a world after a failure, if it may make so many more attempts: the
attempts that it makes, the world after them, and what it comes to. -/
inductive Tries : Nat → Failure → World σ → List (Attempt σ) → World σ → Run σ (Launcher σ) → Prop
  | exhausted {last : Failure} {w : World σ} : Tries 0 last w [] w ⟨.error last, [], w⟩
  | portless {n : Nat} {last e : Failure} {w u : World σ} (h : p.LacksPort m w e u) :
      Tries (n + 1) last w [] w ⟨.error e, [], u⟩
  | decided {n port : Nat} {last : Failure} {w u : World σ} {a : Attempt σ}
      (hp : p.TakesPort m w port u) (ha : p.attemptIn m port u = a) (h : Decisive a.start) :
      Tries (n + 1) last w [a] a.run.world a.run
  | again {n port : Nat} {last e : Failure} {w u v : World σ} {a : Attempt σ}
      {r : Run σ (Launcher σ)} {as : List (Attempt σ)} (hp : p.TakesPort m w port u)
      (ha : p.attemptIn m port u = a) (failed : a.run.outcome = .error e)
      (he : triesAgainAfter e = true) (rest : Tries n e a.run.world as v r) :
      Tries (n + 1) last w (a :: as) v { r with trace := a.run.trace ++ r.trace }

variable {p m}

section

variable {n port : Nat} {last e : Failure} {w u : World σ} {a : Attempt σ}

theorem comesTo_attemptIn (ha : p.attemptIn m port u = a) : p.ComesTo u a.start a.run :=
  ha ▸ p.comesTo_attempt m port u

theorem run_retry_decided (taken : (Client.unusedPort m p.host).run w = ⟨.ok port, [], u⟩)
    (ha : p.attemptIn m port u = a) (h : Decisive a.start) :
    (p.retry m (n + 1) last).run w = a.run := by
  have outcome := congrArg Run.outcome taken
  have decisive := (comesTo_attemptIn ha).decisive_iff.1 h
  have run : (p.attempt m port).run u = a.run := congrArg Attempt.run ha
  rw [retry, Client.run_bind_ok outcome, taken, Client.run_attempt_bind, run]
  obtain ⟨_, _, trace, v⟩ := a
  rcases decisive with ⟨l, rfl⟩ | ⟨reason, rfl⟩
  · simp [Client.run_pure]
  · simp [triesAgainAfter, Client.run, Client.fail]

theorem run_retry_again (taken : (Client.unusedPort m p.host).run w = ⟨.ok port, [], u⟩)
    (ha : p.attemptIn m port u = a) (failed : a.run.outcome = .error e)
    (he : triesAgainAfter e = true) :
    (p.retry m (n + 1) last).run w =
      { (p.retry m n e).run a.run.world with
        trace := a.run.trace ++ ((p.retry m n e).run a.run.world).trace } := by
  have outcome := congrArg Run.outcome taken
  have run : (p.attempt m port).run u = a.run := congrArg Attempt.run ha
  rw [retry, Client.run_bind_ok outcome, taken, Client.run_attempt_bind, run]
  simp [failed, he]

end

/-- How the attempts follow each other at ports that are found to be free. -/
theorem tries_retry (free : p.port = none) (n : Nat) (last : Failure) (w : World σ) :
    ∃ as v, p.Tries m n last w as v ((p.retry m n last).run w) := by
  induction n generalizing last w with
  | zero => exact ⟨[], w, .exhausted⟩
  | succ n ih =>
      rcases found : (Client.unusedPort m p.host).run w with ⟨outcome, trace, u⟩
      have quiet : trace = [] := (congrArg Run.trace found).symm
      subst quiet
      cases outcome with
      | error e =>
          rw [retry, Client.run_bind_error (congrArg Run.outcome found), found]
          exact ⟨[], w, .portless ⟨free, found⟩⟩
      | ok port =>
          have takes : p.TakesPort m w port u := by
            rw [TakesPort, free]
            exact found
          by_cases decisive : Decisive (p.attemptIn m port u).start
          · rw [run_retry_decided found rfl decisive]
            exact ⟨_, _, .decided takes rfl decisive⟩
          · obtain ⟨e, failed, he⟩ := (comesTo_attemptIn rfl).not_decisive_iff.1 decisive
            obtain ⟨as, v, rest⟩ := ih e (p.attemptIn m port u).run.world
            rw [run_retry_again found rfl failed he]
            exact ⟨_, v, .again takes rfl failed he rest⟩

variable (p m)

/-- How the attempts of a launch follow each other. -/
theorem tries_launch (w : World σ) :
    ∃ as v, p.Tries m p.limit (.connection "driver was never started") w as v
      ((p.launch m).run w) := by
  cases hp : p.port with
  | none =>
      have allowed : p.limit = maxAttempts := by rw [limit, hp]
      have launched : p.launch m =
          p.retry m maxAttempts (.connection "driver was never started") := by rw [launch, hp]
      rw [allowed, launched]
      exact tries_retry hp _ _ _
  | some port =>
      have allowed : p.limit = 1 := by rw [limit, hp]
      have launched : (p.launch m).run w = (p.attemptIn m port w).run := by
        rw [launch, hp]
        rfl
      have takes : p.TakesPort m w port w := by
        rw [TakesPort, hp]
        exact ⟨rfl, rfl⟩
      rw [allowed, launched]
      by_cases decisive : Decisive (p.attemptIn m port w).start
      · exact ⟨_, _, .decided takes rfl decisive⟩
      · obtain ⟨e, failed, he⟩ := (comesTo_attemptIn rfl).not_decisive_iff.1 decisive
        have once : Tries p m 1 (.connection "driver was never started") w _ _ _ :=
          .again takes rfl failed he .exhausted
        rw [List.append_nil, ← failed] at once
        exact ⟨_, _, once⟩

/-! ### What is known of a launch -/

/-- Attempts that are made one after the other, each at a port that there is for it and with what
comes of the start of its driver, and the world after them. -/
inductive InTurn : World σ → List (Attempt σ) → World σ → Prop
  | none {w : World σ} : InTurn w [] w
  | more {port : Nat} {w u v : World σ} {a : Attempt σ} {as : List (Attempt σ)}
      (hp : p.TakesPort m w port u) (ha : p.attemptIn m port u = a)
      (comes : p.ComesTo u a.start a.run) (rest : InTurn a.run.world as v) : InTurn w (a :: as) v

/-- How a launch ends after its attempts, of which so many are allowed.  It comes to what the last
attempt came to, after which no more are allowed unless its driver cannot be started or is heard; or
there is no port for one more attempt, and it comes to the reason for that. -/
inductive Ends (allowed : Nat) (attempts : List (Attempt σ)) (v : World σ) :
    Run σ (Launcher σ) → Prop
  | last {a : Attempt σ} {t : List Event} (ha : attempts.getLast? = some a)
      (h : Decisive a.start ∨ attempts.length = allowed) :
      Ends allowed attempts v { a.run with trace := t }
  | portless {e : Failure} {u : World σ} {t : List Event} (h : p.LacksPort m v e u)
      (fewer : attempts.length < allowed) (undecided : ∀ a ∈ attempts, ¬Decisive a.start) :
      Ends allowed attempts v ⟨.error e, t, u⟩

/-- What is known of a launch with so many attempts allowed: the attempts that it makes from a world
on, the world after them, and what it comes to. -/
structure Launched (allowed : Nat) (w : World σ) (attempts : List (Attempt σ)) (v : World σ)
    (r : Run σ (Launcher σ)) : Prop where
  /-- The attempts are made one after the other. -/
  inTurn : p.InTurn m w attempts v
  /-- Nothing but the attempts happens. -/
  trace : r.trace = attempts.flatMap fun a => a.run.trace
  /-- There are no more attempts than allowed. -/
  bounded : attempts.length ≤ allowed
  /-- No attempt but the last is decisive. -/
  undecided : ∀ a ∈ attempts.dropLast, ¬Decisive a.start
  /-- It ends with the last attempt, or because there is no port for one more. -/
  ended : p.Ends m allowed attempts v r

variable {p m}

/-- One more attempt before those of a launch. -/
theorem Launched.cons {n port : Nat} {w u v : World σ} {a : Attempt σ} {r : Run σ (Launcher σ)}
    {as : List (Attempt σ)} (hp : p.TakesPort m w port u) (ha : p.attemptIn m port u = a)
    (h : ¬Decisive a.start) (rest : p.Launched m n a.run.world as v r) :
    p.Launched m (n + 1) w (a :: as) v { r with trace := a.run.trace ++ r.trace } := by
  constructor
  · exact .more hp ha (comesTo_attemptIn ha) rest.inTurn
  · simp [rest.trace]
  · simpa using rest.bounded
  · intro b hb
    cases as with
    | nil => cases hb
    | cons c cs =>
        rw [List.dropLast_cons_cons] at hb
        rcases List.mem_cons.1 hb with rfl | hb
        · exact h
        · exact rest.undecided b hb
  · cases rest.ended with
    | @last b t hb decided =>
        refine .last (a := b) ?_ (decided.imp_right fun all => by simp [all])
        simp [List.getLast?_cons, hb]
    | portless lacks fewer undecided =>
        exact .portless lacks (by simpa using fewer) (List.forall_mem_cons.2 ⟨h, undecided⟩)

/-- A launch that goes on after a failure is known, or it has no attempts left. -/
theorem Tries.launched {n : Nat} {last : Failure} {w v : World σ} {r : Run σ (Launcher σ)}
    {as : List (Attempt σ)} (h : p.Tries m n last w as v r) :
    p.Launched m n w as v r ∨ n = 0 ∧ as = [] ∧ v = w ∧ r = ⟨.error last, [], w⟩ := by
  induction h with
  | exhausted => exact .inr ⟨rfl, rfl, rfl, rfl⟩
  | portless h =>
      exact .inl ⟨.none, rfl, Nat.zero_le _, by simp, .portless h (Nat.succ_pos _) (by simp)⟩
  | @decided n port last w u a hp ha h =>
      exact .inl ⟨.more hp ha (comesTo_attemptIn ha) .none, by simp, Nat.le_add_left 1 n, by simp,
        .last (a := a) rfl (.inl h)⟩
  | @again n port last e w u v a r as hp ha failed he rest ih =>
      have comes := comesTo_attemptIn ha
      have undecided : ¬Decisive a.start := comes.not_decisive_iff.2 ⟨e, failed, he⟩
      rcases ih with known | ⟨rfl, rfl, rfl, rfl⟩
      · exact .inl (known.cons hp ha undecided)
      · refine .inl ⟨.more hp ha comes .none, by simp, Nat.le_refl 1, by simp, ?_⟩
        have ended : p.Ends m 1 [a] a.run.world
            ⟨a.run.outcome, a.run.trace ++ [], a.run.world⟩ := .last rfl (.inr rfl)
        rwa [failed] at ended

/-- Processes that have been killed before do not matter. -/
theorem Settles.after {r : Run σ (Launcher σ)} (h : Settles r) (processes : List Nat) :
    Settles { r with trace := startedAndKilled processes ++ r.trace } := by
  have append (more : List Nat) :
      startedAndKilled processes ++ startedAndKilled more = startedAndKilled (processes ++ more) :=
    List.flatMap_append.symm
  cases h with
  | failed more e v =>
      rw [append]
      exact .failed _ e v
  | listening more process url v =>
      rw [← List.append_assoc, append]
      exact .listening _ process url v

theorem Settles.exists_trace {r : Run σ (Launcher σ)} {e : Failure} (h : Settles r)
    (failed : r.outcome = .error e) : ∃ processes, r.trace = startedAndKilled processes := by
  cases h with
  | failed processes e v => exact ⟨processes, rfl⟩
  | listening => cases failed

theorem Tries.settles {n : Nat} {last : Failure} {w v : World σ} {r : Run σ (Launcher σ)}
    {as : List (Attempt σ)} (h : p.Tries m n last w as v r) : Settles r := by
  induction h with
  | exhausted => exact .failed [] _ _
  | portless => exact .failed [] _ _
  | decided _ ha => exact (comesTo_attemptIn ha).settles
  | again _ ha failed _ _ ih =>
      obtain ⟨processes, trace⟩ := (comesTo_attemptIn ha).settles.exists_trace failed
      rw [trace]
      exact ih.after processes

theorem Settles.keepsOne {r : Run σ (Launcher σ)} (h : Settles r) : KeepsOne r.trace := by
  cases h with
  | failed processes e v =>
      have none : KeepsOne [] := keepsOne_of_spawned (Nat.zero_le 1)
      simpa using none.after processes
  | listening processes process url v =>
      have one : KeepsOne [.spawn process] := keepsOne_of_spawned (Nat.le_refl 1)
      exact one.after processes

variable (p m)

/-- What is known of a launch. -/
theorem exists_launched (w : World σ) :
    ∃ as v, p.Launched m p.limit w as v ((p.launch m).run w) := by
  obtain ⟨as, v, tries⟩ := p.tries_launch m w
  rcases tries.launched with known | ⟨none, -⟩
  · exact ⟨as, v, known⟩
  · have some_allowed : p.limit ≠ 0 := by
      unfold limit
      split <;> decide
    exact absurd none some_allowed

theorem settles_launch (w : World σ) : Settles ((p.launch m).run w) := by
  obtain ⟨as, v, tries⟩ := p.tries_launch m w
  exact tries.settles

/-! ### The traces of a launch -/

theorem accounts_attempt (port : Nat) : (p.attempt m port).Accounts := by
  refine (Client.accounts_spawn _ _ _).bind fun started => ?_
  obtain ⟨process, start⟩ := started
  have abandoned (e : Failure) :
      (Client.kill process >>= fun _ => (Client.fail e : Client σ (Launcher σ))).Accounts :=
    (Client.accounts_kill process).bind fun _ => Client.accounts_fail e
  cases start with
  | refused reason => exact Client.accounts_fail _
  | unreadable => exact abandoned _
  | reading arrivals =>
      dsimp only
      cases Announcement.ofArrivals arrivals with
      | heard url => exact Client.accounts_pure _
      | exited => exact abandoned _
      | silent => exact (Client.accounts_sleep _).bind fun _ => abandoned _

theorem accounts_retry (n : Nat) (last : Failure) : (p.retry m n last).Accounts := by
  induction n generalizing last with
  | zero => exact Client.accounts_fail last
  | succ n ih =>
      refine (Client.accounts_unusedPort m p.host).bind fun port => ?_
      refine (p.accounts_attempt m port).attempt.bind fun outcome => ?_
      cases outcome with
      | ok launcher => exact Client.accounts_pure launcher
      | error e =>
          dsimp only
          split
          · exact ih e
          · exact Client.accounts_fail e

theorem accounts_launch : (p.launch m).Accounts := by
  unfold launch
  split
  · exact p.accounts_attempt m _
  · exact p.accounts_retry m _ _

end DriverProgram

/-! ### Sessions -/

theorem Session.accounts_create (transport : Transport σ) {launcher : Launcher σ}
    (h : launcher.halt.Accounts) (capabilities : Capabilities) (context : CallSite) :
    (create transport launcher capabilities context).Accounts := by
  have asked : (request transport capabilities context).Accounts := by
    refine (Client.accounts_exchange _ _ _).bind fun response => ?_
    exact (Client.accounts_ofExcept _).bind fun value => Client.accounts_ofExcept _
  refine asked.attempt.bind fun outcome => ?_
  cases outcome with
  | ok created => exact Client.accounts_pure _
  | error e =>
      have stopped : launcher.stop.Accounts := Client.accounts_stop.bind fun _ => h
      exact stopped.attempt.bind fun _ => Client.accounts_fail e

namespace Driver

/-- What a launch leaves of the processes that it starts: the last one if it succeeds, and none
otherwise. -/
def Leaves {α : Type} (r : Run σ α) : Prop :=
  match r.outcome with
  | .ok _ => ∃ earlier last, spawned r.trace = earlier ++ [last] ∧ last ∈ r.world.running ∧
      ∀ process ∈ earlier, process ∉ r.world.running
  | .error _ => ∀ process ∈ spawned r.trace, process ∉ r.world.running

/-- A launch has ended: the drivers that did not listen are killed, and what happened after that
started one more at most. -/
inductive Concludes {α : Type} : Run σ α → Prop
  | failed (processes : List Nat) (t : List Event) (e : Failure) (v : World σ)
      (few : (spawned t).length ≤ 1) (none : runningAfter [] t = []) :
      Concludes ⟨.error e, startedAndKilled processes ++ t, v⟩
  | kept (processes : List Nat) (process : Nat) (t : List Event) (a : α) (v : World σ)
      (one : spawned t = [process]) (left : runningAfter [] t = [process]) :
      Concludes ⟨.ok a, startedAndKilled processes ++ t, v⟩

theorem Concludes.keepsOne {α : Type} {r : Run σ α} (h : Concludes r) : KeepsOne r.trace := by
  cases h with
  | failed processes t e v few none => exact (keepsOne_of_spawned few).after processes
  | kept processes process t a v one left =>
      have few : KeepsOne t := keepsOne_of_spawned (by rw [one, List.length_singleton])
      exact few.after processes

theorem Concludes.leaves {α : Type} {w : World σ} {r : Run σ α} (h : Concludes r)
    (accounts : r.Accounts w) : Leaves r := by
  have distinct := accounts.nodup
  cases h with
  | failed processes t e v few none =>
      intro process started
      rw [accounts.mem_running_iff started, runningAfter_append, runningAfter_startedAndKilled,
        none]
      exact List.not_mem_nil
  | kept processes process t a v one left =>
      have numbers : spawned (startedAndKilled processes ++ t) = processes ++ [process] := by
        rw [spawned_append, spawned_startedAndKilled, one]
      have runs_iff {other : Nat} (started : other ∈ processes ++ [process]) :
          other ∈ v.running ↔ other = process := by
        have runs := accounts.mem_running_iff (numbers ▸ started)
        rw [runningAfter_append, runningAfter_startedAndKilled, left, List.mem_singleton] at runs
        exact runs
      rw [numbers] at distinct
      refine ⟨processes, process, numbers, (runs_iff (by simp)).2 rfl, fun other earlier runs => ?_⟩
      obtain rfl := (runs_iff (List.mem_append_left _ earlier)).1 runs
      exact (List.nodup_append.1 distinct).2.2 other earlier other (List.mem_singleton_self _) rfl

section

variable (capabilities : Capabilities) (timeout : Duration)
  (connect : Url → Duration → Except Failure (Transport σ)) (context : CallSite)

/-- What a launch does with a process that listens at an address. -/
def openSession (process : Nat) (url : Url) : Client σ (Session σ) :=
  match connect url timeout with
  | .ok transport =>
    Session.create transport (DriverProgram.launcher process url) capabilities context
  | .error e => (Client.kill process).attempt >>= fun _ => Client.fail e

theorem accounts_openSession (process : Nat) (url : Url) :
    (openSession capabilities timeout connect context process url).Accounts := by
  have killed : (Client.kill process : Client σ Unit).Accounts := Client.accounts_kill process
  unfold openSession
  split
  · exact Session.accounts_create _ killed _ _
  · exact killed.attempt.bind fun _ => Client.accounts_fail _

/-- No process is started, and the one that listens is left alone if there is a session and killed
otherwise. -/
structure Opens (process : Nat) (r : Run σ (Session σ)) : Prop where
  quiet : spawned r.trace = []
  /-- What is left of the process that listens. -/
  left : runningAfter [process] r.trace =
    match r.outcome with
    | .ok _ => [process]
    | .error _ => []

theorem opens_openSession {process : Nat} {v : World σ} (runs : process ∈ v.running) (url : Url) :
    Opens process
      ((openSession capabilities timeout connect context process url).run v) := by
  have killed {u : World σ} (same : u.running = v.running) :
      (Client.kill process : Client σ Unit).run u =
        ⟨.ok (), [.kill process], { u with running := u.running.filter (· ≠ process) }⟩ :=
    if_pos (same ▸ runs)
  unfold openSession
  cases connect url timeout with
  | error e =>
      rw [Client.run_attempt_bind, killed rfl]
      exact ⟨rfl, by simp [Client.run, Client.fail, runningAfter, Event.after]⟩
  | ok transport =>
      have creates := Session.creates_create transport (DriverProgram.launcher process url)
        capabilities context v
      have same : ((Session.askForSession transport capabilities context).run v).world.running =
        v.running := rfl
      have halt : (DriverProgram.launcher process url : Launcher σ).halt =
        Client.kill process := rfl
      generalize (Session.askForSession transport capabilities context).run v = asked
        at creates same
      cases created : Session.creation context asked.outcome with
      | ok new =>
          rw [creates.created new created]
          exact ⟨rfl, rfl⟩
      | error e =>
          rw [creates.failed e created, halt, killed same]
          exact ⟨rfl, by simp [runningAfter, Event.after]⟩

end

variable (program : DriverProgram) (capabilities : Capabilities) (timeout : Duration)
  (m : Machine σ) (connect : Url → Duration → Except Failure (Transport σ)) (context : CallSite)

/-- A launch goes on only with a driver that listens. -/
theorem run_launch {w v : World σ} {t : List Event} :
    (∀ e, (program.launch m).run w = ⟨.error e, t, v⟩ →
      (launch ⟨.spawn program, capabilities, timeout⟩ m connect context).run w =
        ⟨.error e, t, v⟩) ∧
    ∀ process url, (program.launch m).run w = ⟨.ok (DriverProgram.launcher process url), t, v⟩ →
      (launch ⟨.spawn program, capabilities, timeout⟩ m connect context).run w =
        { (openSession capabilities timeout connect context process url).run v with
          trace := t ++
            ((openSession capabilities timeout connect context process url).run v).trace } := by
  have parts : launch ⟨.spawn program, capabilities, timeout⟩ m connect context =
      program.launch m >>= fun launcher =>
        match connect launcher.base timeout with
        | .ok transport => Session.create transport launcher capabilities context
        | .error e => launcher.halt.attempt >>= fun _ => Client.fail e := rfl
  rw [parts]
  constructor
  · intro e failed
    rw [Client.run_bind_error (congrArg Run.outcome failed), failed]
  · intro process url listens
    rw [Client.run_bind_ok (congrArg Run.outcome listens), listens]
    rfl

/-- How a launch ends, and that its trace tells which processes run after it. -/
theorem concludes_launch (w : World σ) :
    Concludes ((launch ⟨.spawn program, capabilities, timeout⟩ m connect context).run w) ∧
      Run.Accounts w
        ((launch ⟨.spawn program, capabilities, timeout⟩ m connect context).run w) := by
  have settled := program.settles_launch m w
  have accounts := program.accounts_launch m w
  generalize hr : (program.launch m).run w = r at settled accounts
  cases settled with
  | failed processes e v =>
      rw [(run_launch program capabilities timeout m connect context).1 e hr]
      refine ⟨?_, accounts.running, accounts.numbered⟩
      have concludes : Concludes (⟨.error e, startedAndKilled processes ++ [], v⟩ :
          Run σ (Session σ)) := .failed processes [] e v (Nat.zero_le 1) rfl
      rwa [List.append_nil] at concludes
  | listening processes process url v =>
      have runs : process ∈ v.running := by
        have started : process ∈ spawned (startedAndKilled processes ++ [.spawn process]) := by
          simp [spawned, Event.spawned?]
        have runs_iff := accounts.mem_running_iff started
        rw [runningAfter_append, runningAfter_startedAndKilled] at runs_iff
        exact runs_iff.2 (List.mem_singleton_self process)
      rw [(run_launch program capabilities timeout m connect context).2 process url hr]
      have opens := opens_openSession capabilities timeout connect context runs url
      refine ⟨?_, accounts.append (accounts_openSession _ _ _ _ process url v)⟩
      generalize (openSession capabilities timeout connect context process url).run v = s
        at opens ⊢
      obtain ⟨outcome, t, u⟩ := s
      have one : spawned (.spawn process :: t) = [process] := congrArg (process :: ·) opens.quiet
      rw [List.append_assoc]
      cases outcome with
      | ok session => exact .kept processes process (.spawn process :: t) session u one opens.left
      | error e =>
          have few : (spawned (.spawn process :: t)).length ≤ 1 := by
            rw [one, List.length_singleton]
          exact .failed processes (.spawn process :: t) e u few opens.left

end Driver

/-- **A launch leaves no driver behind but that of its session.**  It starts drivers one after the
other, one at a fixed port and at most three otherwise, and ends with the first attempt whose driver
is heard or cannot be started, with the first for which there is no port, and with the last one
otherwise; how a driver starts and what it announces says what its attempt comes to.  At no time do
two of the drivers run.  If there is a session in the end, the driver that was started last is left
and all others are killed; if there is none, all are. -/
theorem Driver.launch_leaves_last (program : DriverProgram) (m : Machine σ) (w : World σ) :
    (∃ attempts v, program.Launched m program.limit w attempts v ((program.launch m).run w)) ∧
    KeepsOne ((program.launch m).run w).trace ∧
    ∀ (capabilities : Capabilities) (requestTimeout : Duration)
      (connect : Url → Duration → Except Failure (Transport σ)) (context : CallSite),
      KeepsOne ((launch ⟨.spawn program, capabilities, requestTimeout⟩ m connect context).run
        w).trace ∧
      Leaves ((launch ⟨.spawn program, capabilities, requestTimeout⟩ m connect context).run w) := by
  refine ⟨program.exists_launched m w, (program.settles_launch m w).keepsOne, ?_⟩
  intro capabilities requestTimeout connect context
  obtain ⟨concludes, accounts⟩ :=
    concludes_launch program capabilities requestTimeout m connect context w
  exact ⟨concludes.keepsOne, concludes.leaves accounts⟩

end WebDriverClient
