/-
**Processes in a trace.**

An operation notes in its trace which processes it starts and which it kills, and that is enough to
tell which processes run after it: the world that it leaves is what its trace makes of the world in
which it began.  Processes are numbered in the order in which they are started.

Main definitions:

* `spawned` — the processes that a trace starts;
* `runningAfter` — the processes that run after a trace;
* `Client.Accounts` — the operations whose trace tells which processes run after them.

Main results:

* `mem_runningAfter_of_mem_spawned` — what becomes of a process that a trace starts does not depend
  on the processes before it;
* `length_runningAfter_le` — no more processes run than are started;
* `Client.Accounts.bind`, `Client.Accounts.attempt` — operations put together.
-/

import WebDriverClient.Endpoint.Process
import WebDriverClient.Proofs.Browsing.Ensures

set_option autoImplicit false

namespace WebDriverClient

/-! ### Traces -/

/-- The process that an event starts, if it starts one. -/
def Event.spawned? : Event → Option Nat
  | .spawn process => some process
  | _ => none

/-- The processes that a trace starts, in order. -/
def spawned (t : List Event) : List Nat := t.filterMap Event.spawned?

/-- The processes that run after an event, if these ran before it. -/
def Event.after (running : List Nat) : Event → List Nat
  | .spawn process => running ++ [process]
  | .kill process => running.filter (· ≠ process)
  | _ => running

/-- The processes that run after a trace, if these ran before it. -/
def runningAfter (running : List Nat) (t : List Event) : List Nat := t.foldl Event.after running

theorem spawned_append (t u : List Event) : spawned (t ++ u) = spawned t ++ spawned u :=
  List.filterMap_append

theorem runningAfter_cons (running : List Nat) (e : Event) (t : List Event) :
    runningAfter running (e :: t) = runningAfter (e.after running) t := rfl

theorem runningAfter_append (running : List Nat) (t u : List Event) :
    runningAfter running (t ++ u) = runningAfter (runningAfter running t) u :=
  List.foldl_append

/-- What becomes of one process depends on nothing but whether it ran before. -/
theorem mem_runningAfter_congr {running others : List Nat} {process : Nat}
    (h : process ∈ running ↔ process ∈ others) (t : List Event) :
    process ∈ runningAfter running t ↔ process ∈ runningAfter others t := by
  induction t generalizing running others with
  | nil => exact h
  | cons e t ih =>
      refine ih ?_
      cases e <;> simp [Event.after, h]

/-- What becomes of a process that a trace starts does not depend on the processes before it. -/
theorem mem_runningAfter_of_mem_spawned {running : List Nat} {t : List Event} {process : Nat}
    (h : process ∈ spawned t) :
    process ∈ runningAfter running t ↔ process ∈ runningAfter [] t := by
  obtain ⟨e, he, hp⟩ := List.mem_filterMap.1 h
  obtain ⟨before, later, rfl⟩ := List.append_of_mem he
  cases e with
  | spawn started =>
      cases hp
      rw [runningAfter_append, runningAfter_append]
      exact mem_runningAfter_congr (by simp [Event.after]) later
  | _ => cases hp

/-- No more processes run than ran before and are started. -/
theorem length_runningAfter_le (running : List Nat) (t : List Event) :
    (runningAfter running t).length ≤ running.length + (spawned t).length := by
  induction t generalizing running with
  | nil => simp [runningAfter]
  | cons e t ih =>
      have step : (e.after running).length ≤ running.length + (spawned [e]).length := by
        cases e with
        | spawn process => simp [Event.after, spawned, Event.spawned?]
        | kill process => exact List.length_filter_le _ _
        | _ => exact Nat.le_refl _
      have parts : spawned (e :: t) = spawned [e] ++ spawned t := spawned_append [e] t
      have rest := ih (e.after running)
      rw [runningAfter_cons, parts, List.length_append]
      omega

/-! ### Operations -/

variable {σ α β : Type}

/-- The trace of a run tells which processes run after it, and numbers those that it starts. -/
structure Run.Accounts (w : World σ) (r : Run σ α) : Prop where
  running : r.world.running = runningAfter w.running r.trace
  /-- The processes that it starts are numbered on from those before. -/
  numbered : ∃ count, r.world.started = w.started + count ∧
    spawned r.trace = List.range' w.started count

/-- A process is started once. -/
theorem Run.Accounts.nodup {w : World σ} {r : Run σ α} (h : r.Accounts w) :
    (spawned r.trace).Nodup := by
  obtain ⟨count, -, numbers⟩ := h.numbered
  rw [numbers]
  exact List.nodup_range'

/-- A process that the run has started runs after it exactly if the trace has not killed it. -/
theorem Run.Accounts.mem_running_iff {w : World σ} {r : Run σ α} (h : r.Accounts w) {process : Nat}
    (started : process ∈ spawned r.trace) :
    process ∈ r.world.running ↔ process ∈ runningAfter [] r.trace := by
  rw [h.running]
  exact mem_runningAfter_of_mem_spawned started

/-- What happens later is accounted for from the world that is left. -/
theorem Run.Accounts.append {w : World σ} {r : Run σ α} {s : Run σ β} (hr : r.Accounts w)
    (hs : s.Accounts r.world) : Run.Accounts w { s with trace := r.trace ++ s.trace } := by
  obtain ⟨m, started, numbers⟩ := hr.numbered
  obtain ⟨n, started', numbers'⟩ := hs.numbered
  constructor
  · rw [runningAfter_append, ← hr.running]
    exact hs.running
  · refine ⟨m + n, by simp [started', started, Nat.add_assoc], ?_⟩
    rw [spawned_append, numbers, numbers', started, List.range'_append_1]

/-- A run without processes that leaves those of the world alone. -/
theorem Run.Accounts.of_quiet {w : World σ} {r : Run σ α} (running : r.world.running = w.running)
    (started : r.world.started = w.started) (after : ∀ l, runningAfter l r.trace = l)
    (none : spawned r.trace = []) : r.Accounts w :=
  ⟨by rw [after, running], 0, started, by rw [none]; rfl⟩

namespace Client

/-- The traces of the operation tell which processes run after it. -/
def Accounts (x : Client σ α) : Prop := ∀ w, (x.run w).Accounts w

theorem accounts_pure (a : α) : (pure a : Client σ α).Accounts :=
  fun _ => .of_quiet rfl rfl (fun _ => rfl) rfl

theorem accounts_fail (e : Failure) : (fail e : Client σ α).Accounts :=
  fun _ => .of_quiet rfl rfl (fun _ => rfl) rfl

theorem accounts_ofExcept (r : Except Failure α) : (ofExcept r : Client σ α).Accounts :=
  fun _ => .of_quiet rfl rfl (fun _ => rfl) rfl

theorem accounts_exchange (transport : Transport σ) (call : Call) (request : Request) :
    (exchange transport call request).Accounts :=
  fun _ => .of_quiet rfl rfl (fun _ => rfl) rfl

theorem accounts_stop : (record .stop : Client σ Unit).Accounts :=
  fun _ => .of_quiet rfl rfl (fun _ => rfl) rfl

theorem accounts_sleep (duration : Nat) : (sleep duration : Client σ Unit).Accounts :=
  fun _ => .of_quiet rfl rfl (fun _ => rfl) rfl

theorem accounts_unusedPort (m : Machine σ) (host : String) : (unusedPort m host).Accounts :=
  fun _ => .of_quiet rfl rfl (fun _ => rfl) rfl

theorem accounts_spawn (m : Machine σ) (binary : String) (args : List String) :
    (spawn m binary args).Accounts := by
  intro w
  unfold run spawn
  dsimp only
  split
  · exact ⟨rfl, 1, rfl, rfl⟩
  · exact ⟨rfl, 0, rfl, rfl⟩

theorem accounts_kill (process : Nat) : (kill process : Client σ Unit).Accounts := by
  intro w
  unfold run kill
  split
  · exact ⟨rfl, 0, rfl, rfl⟩
  · exact ⟨rfl, 0, rfl, rfl⟩

/-- An operation that goes on with the result of another. -/
theorem Accounts.bind {x : Client σ α} {f : α → Client σ β} (hx : x.Accounts)
    (hf : ∀ a, (f a).Accounts) : (x >>= f).Accounts := by
  intro w
  cases hr : (x.run w).outcome with
  | ok a =>
      rw [run_bind_ok hr]
      exact (hx w).append (hf a _)
  | error e =>
      rw [run_bind_error hr]
      exact ⟨(hx w).running, (hx w).numbered⟩

theorem Accounts.attempt {x : Client σ α} (hx : x.Accounts) : x.attempt.Accounts :=
  fun w => ⟨(hx w).running, (hx w).numbered⟩

end Client

end WebDriverClient
