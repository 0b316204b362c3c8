/-
**Operations of a client.**

An operation is a function of the world in which it runs: the remote end, of which only its state
is known, the clock and the processes that have been started.  It ends with a result or a failure,
and leaves a trace of what happened, in order.  A failure ends the operation, and what it did before
stays done.  Times are in nanoseconds since the clock was started.

Main definitions:

* `Transport` — what carries a request to the remote end and brings its response;
* `Event` — what may happen while an operation runs;
* `World`, `Run` — where an operation runs, and what comes of it;
* `Client` — the operations, which form a monad;
* `Client.exchange`, `Client.sleep`, `Client.record` — the smallest operations;
* `Client.attempt` — an operation whose failure is its result.
-/

import WebDriverClient.Wire.Response

set_option autoImplicit false

namespace WebDriverClient

/-! ### The remote end -/

/-- How one exchange ended, and how long it took. -/
structure Delivery where
  outcome : Except Failure Response
  duration : Nat := 0

/-- What carries requests to a remote end whose states are of type `σ`. -/
abbrev Transport (σ : Type) := Request → σ → Delivery × σ

/-! ### What happens -/

/-- What may happen while an operation runs. -/
inductive Event where
  | exchange (call : Call) (request : Request) (outcome : Except Failure Response)
  /-- A condition that is waited for was checked at this time. -/
  | check (time : Nat)
  | stop
  | spawn (process : Nat)
  | kill (process : Nat)

/-- Where an operation runs. -/
structure World (σ : Type) where
  remote : σ
  clock : Nat := 0
  /-- How many processes have been started; they are numbered from zero. -/
  started : Nat := 0
  running : List Nat := []

/-- What comes of an operation. -/
structure Run (σ α : Type) where
  outcome : Except Failure α
  trace : List Event
  world : World σ

/-! ### Operations -/

/-- The operations on a world. -/
def Client (σ α : Type) := World σ → Run σ α

namespace Client

variable {σ α β : Type}

/-- What comes of an operation in a world. -/
def run (x : Client σ α) (w : World σ) : Run σ α := x w

/-- The operation that only has a result. -/
protected def pure (a : α) : Client σ α := fun w => ⟨.ok a, [], w⟩

/-- The operation that goes on with the result of another, unless that fails. -/
protected def bind (x : Client σ α) (f : α → Client σ β) : Client σ β := fun w =>
  match x.run w with
  | ⟨.ok a, trace, w'⟩ =>
    let r := (f a).run w'
    ⟨r.outcome, trace ++ r.trace, r.world⟩
  | ⟨.error e, trace, w'⟩ => ⟨.error e, trace, w'⟩

instance : Monad (Client σ) where
  pure := Client.pure
  bind := Client.bind

/-- The operation that only fails. -/
def fail (e : Failure) : Client σ α := fun w => ⟨.error e, [], w⟩

/-- The operation whose result is known. -/
def ofExcept (r : Except Failure α) : Client σ α := fun w => ⟨r, [], w⟩

/-- The operation whose failure is its result. -/
def attempt (x : Client σ α) : Client σ (Except Failure α) := fun w =>
  let r := x.run w
  ⟨.ok r.outcome, r.trace, r.world⟩

/-- Notes that something happens. -/
def record (e : Event) : Client σ Unit := fun w => ⟨.ok (), [e], w⟩

/-- Lets time pass. -/
def sleep (duration : Nat) : Client σ Unit := fun w =>
  ⟨.ok (), [], { w with clock := w.clock + duration }⟩

/-- Sends a request and waits for the response. -/
def exchange (transport : Transport σ) (call : Call) (request : Request) : Client σ Response :=
  fun w =>
    let (delivery, remote) := transport request w.remote
    ⟨delivery.outcome, [.exchange call request delivery.outcome],
      { w with remote, clock := w.clock + delivery.duration }⟩

/-- Reads a value of a reply. -/
def decode (decoder : Json.Decoder α) (value : Json) : Client σ α :=
  ofExcept ((decoder value).mapError .json)

end Client

end WebDriverClient
