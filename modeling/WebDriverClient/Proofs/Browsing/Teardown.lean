/-
**The driver of a session that ends.**

A session takes its driver with it: if the session cannot be created the driver is stopped, and if
it is closed the driver is stopped after the session has been deleted, whatever became of that.  In
both cases there are two things that can fail.  The failure to create a session is always the one
that is reported.  A closed session reports that the driver could not be stopped, if it could not,
and the failure to delete the session otherwise.

Main definitions:

* `Session.Creates` — what comes of creating a session, by what came of its request;
* `Session.Closes` — what comes of closing a session, by what came of its request and of halting
  the driver.

Main results:

* `Session.creates_create`, `Session.closes_close` — both from the exchange of the request on;
* `Session.stops_driver` — **a driver is stopped once by a session that cannot be created or is
  closed, and not at all by one that is created**;
* `Session.close_hides_deletion` — a failure to delete the session may go unreported.
-/

import WebDriverClient.Proofs.Browsing.Replies

set_option autoImplicit false

namespace WebDriverClient

variable {σ α β : Type}

/-! ### Stopping -/

/-- Goes on with what an operation came to, be it a failure. -/
theorem Client.run_attempt_bind {x : Client σ α} {f : Except Failure α → Client σ β}
    (v : World σ) :
    (x.attempt >>= f).run v =
      { (f (x.run v).outcome).run (x.run v).world with
        trace := (x.run v).trace ++ ((f (x.run v).outcome).run (x.run v).world).trace } := by
  have attempted : (x.attempt.run v).outcome = .ok (x.run v).outcome := rfl
  rw [Client.run_bind_ok attempted]
  rfl

/-- Telling a driver to stop comes before what is done to halt it. -/
theorem Launcher.run_stop (l : Launcher σ) (v : World σ) :
    l.stop.run v = { l.halt.run v with trace := .stop :: (l.halt.run v).trace } := by
  have recorded : ((Client.record .stop : Client σ Unit).run v).outcome = .ok () := rfl
  rw [stop, Client.run_bind_ok recorded]
  rfl

namespace Session

/-! ### Creation -/

/-- The request for a session. -/
def creationRequest (capabilities : Capabilities) : Request :=
  (EndpointCommand.newSession capabilities.toJson).request

/-- The exchange in which a session is asked for. -/
def askForSession (transport : Transport σ) (capabilities : Capabilities) (context : CallSite) :
    Client σ Response :=
  Client.exchange transport ⟨.driver, context⟩ (creationRequest capabilities)

/-- What the exchange in which a session is asked for comes to. -/
def creation (context : CallSite) (asked : Except Failure Response) : Except Failure NewSession :=
  readAs NewSession.decode (reply "new session" ⟨.driver, context⟩ asked)

/-- What comes of creating a session that was asked for. -/
structure Creates (transport : Transport σ) (launcher : Launcher σ) (capabilities : Capabilities)
    (context : CallSite) (asked : Run σ Response) (r : Run σ (Session σ)) : Prop where
  /-- If the reply describes a session, it is the result, and the driver is left alone. -/
  created : ∀ new, creation context asked.outcome = .ok new →
    r = ⟨.ok ⟨⟨⟨new.sessionId⟩, context⟩, transport, launcher⟩,
      [.exchange ⟨.driver, context⟩ (creationRequest capabilities) asked.outcome], asked.world⟩
  /-- If there is none, the driver is stopped once, and the reason is reported whatever comes of
  halting the driver. -/
  failed : ∀ e, creation context asked.outcome = .error e →
    r = ⟨.error e, .exchange ⟨.driver, context⟩ (creationRequest capabilities) asked.outcome ::
      .stop :: (launcher.halt.run asked.world).trace, (launcher.halt.run asked.world).world⟩

theorem run_request (transport : Transport σ) (capabilities : Capabilities) (context : CallSite)
    (v : World σ) :
    (request transport capabilities context).run v =
      { (askForSession transport capabilities context).run v with
        outcome :=
          creation context ((askForSession transport capabilities context).run v).outcome } := by
  have parts : request transport capabilities context =
      askForSession transport capabilities context >>= fun r =>
        Client.ofExcept (r.outcome "new session" ⟨.driver, context⟩) >>=
          Client.decode NewSession.decode := rfl
  cases asked : ((askForSession transport capabilities context).run v).outcome with
  | error e =>
      rw [parts, Client.run_bind_error asked]
      rfl
  | ok r =>
      rw [parts, Client.run_bind_ok asked, Client.run_decode_bind]
      rfl

/-- What comes of creating a session, from the exchange of its request on. -/
theorem creates_create (transport : Transport σ) (launcher : Launcher σ)
    (capabilities : Capabilities) (context : CallSite) (v : World σ) :
    Creates transport launcher capabilities context
      ((askForSession transport capabilities context).run v)
      ((create transport launcher capabilities context).run v) := by
  have run := run_request transport capabilities context v
  have trace : ((askForSession transport capabilities context).run v).trace =
      [.exchange ⟨.driver, context⟩ (creationRequest capabilities)
        ((askForSession transport capabilities context).run v).outcome] := rfl
  generalize (askForSession transport capabilities context).run v = asked at run trace ⊢
  constructor
  · intro new created
    rw [create, Client.run_attempt_bind, run, created, trace]
    simp only [Client.run_pure, List.append_nil]
  · intro e failed
    rw [create, Client.run_attempt_bind, run, failed, trace]
    simp only
    rw [Client.run_attempt_bind, Launcher.run_stop]
    have reported (u : World σ) :
        (Client.fail e : Client σ (Session σ)).run u = ⟨.error e, [], u⟩ := rfl
    rw [reported, List.append_nil]
    rfl

/-! ### Closing -/

/-- The exchange in which a session is deleted. -/
def askToDelete (s : Session σ) (context : CallSite) : Client σ Response :=
  Client.exchange s.transport (s.call context) (Command.deleteSession.request s.id)

/-- What the exchange in which a session is deleted comes to. -/
def deletion (s : Session σ) (context : CallSite) (asked : Except Failure Response) :
    Except Failure Unit :=
  (reply "delete session" (s.call context) asked).map fun _ => ()

/-- What comes of closing a session when the exchange in which it is deleted came to `asked`, and
halting the driver after that to `halted`. -/
structure Closes (s : Session σ) (context : CallSite) (asked : Except Failure Response)
    (halted : Run σ Unit) (r : Run σ Unit) : Prop where
  /-- The session is asked to be deleted, and then the driver is stopped once. -/
  trace : r.trace =
    .exchange (s.call context) (Command.deleteSession.request s.id) asked :: .stop :: halted.trace
  /-- Nothing happens after that. -/
  world : r.world = halted.world
  /-- The session is closed exactly if it was deleted and the driver was halted. -/
  closed : r.outcome = .ok () ↔
    s.deletion context asked = .ok () ∧ halted.outcome = .ok ()
  /-- A failure to delete the session is reported if the driver was halted. -/
  undeleted : ∀ e, s.deletion context asked = .error e → halted.outcome = .ok () →
    r.outcome = .error e
  /-- A failure to halt the driver is reported, whatever came of the session. -/
  unhalted : ∀ f, halted.outcome = .error f → r.outcome = .error f

theorem run_tell (s : Session σ) (command : Command) (context : CallSite) (v : World σ) :
    (s.tell command context).run v =
      { (Client.exchange s.transport (s.call context) (command.request s.id)).run v with
        outcome := (reply command.name (s.call context)
          ((Client.exchange s.transport (s.call context) (command.request s.id)).run v).outcome).map
            fun _ => () } := by
  have parts : s.tell command context =
      s.submit (command.request s.id) (s.call context) >>= fun _ => pure () := rfl
  rw [parts, Client.run_bind_pure, s.run_submit]
  rfl

/-- What comes of closing a session, from the exchange in which it is deleted on. -/
theorem closes_close (s : Session σ) (context : CallSite) (v : World σ) :
    s.Closes context ((s.askToDelete context).run v).outcome
      (s.launcher.halt.run ((s.askToDelete context).run v).world) ((s.close context).run v) := by
  have told : (s.tell .deleteSession context).run v =
      { (s.askToDelete context).run v with
        outcome := s.deletion context ((s.askToDelete context).run v).outcome } :=
    s.run_tell .deleteSession context v
  have trace : ((s.askToDelete context).run v).trace =
      [.exchange (s.call context) (Command.deleteSession.request s.id)
        ((s.askToDelete context).run v).outcome] := rfl
  generalize (s.askToDelete context).run v = asked at told trace ⊢
  have run : (s.close context).run v =
      { (s.launcher.stop >>= fun _ => Client.ofExcept (s.deletion context asked.outcome)).run
          asked.world with
        trace := asked.trace ++
          ((s.launcher.stop >>= fun _ => Client.ofExcept (s.deletion context asked.outcome)).run
            asked.world).trace } := by
    rw [close, Client.run_attempt_bind, told]
  have ended (u : World σ) : (Client.ofExcept (s.deletion context asked.outcome) :
      Client σ Unit).run u = ⟨s.deletion context asked.outcome, [], u⟩ := rfl
  have stop := s.launcher.run_stop asked.world
  generalize s.launcher.halt.run asked.world = halted at stop ⊢
  have stopped : (s.launcher.stop.run asked.world).outcome = halted.outcome := by rw [stop]
  cases h : halted.outcome with
  | error f =>
      rw [h] at stopped
      rw [run, Client.run_bind_error stopped, stop, trace]
      refine ⟨rfl, rfl, ?_, ?_, ?_⟩
      · simp [h]
      · intro e _ halt
        rw [h] at halt
        cases halt
      · intro g halt
        rw [h] at halt
        cases halt
        rfl
  | ok u =>
      rw [h] at stopped
      rw [run, Client.run_bind_ok stopped, ended, List.append_nil, stop, trace]
      refine ⟨rfl, rfl, ?_, ?_, ?_⟩
      · simp [h]
      · intro e undeleted _
        exact undeleted
      · intro f halt
        rw [h] at halt
        cases halt

/-! ### Both -/

/-- **A driver is stopped once by a session that cannot be created or is closed**, and not at all by
one that is created.  The failure to create a session is what is reported; the failure to delete one
is reported unless the driver could not be stopped. -/
theorem stops_driver :
    (∀ (transport : Transport σ) (launcher : Launcher σ) (capabilities : Capabilities)
        (context : CallSite) (v : World σ),
      Creates transport launcher capabilities context
        ((askForSession transport capabilities context).run v)
        ((create transport launcher capabilities context).run v))
    ∧ ∀ (s : Session σ) (context : CallSite) (v : World σ),
      s.Closes context ((s.askToDelete context).run v).outcome
        (s.launcher.halt.run ((s.askToDelete context).run v).world) ((s.close context).run v) :=
  ⟨creates_create, closes_close⟩

/-- A session that has lost its connection, with a driver that cannot be stopped. -/
def abandoned : Session Unit where
  identity := ⟨⟨"s1"⟩, .unavailable⟩
  transport := fun _ state => (⟨.error (.connection "reset"), 0⟩, state)
  launcher := ⟨⟨"http".toList, .at { host := .domain "localhost".toList } [[]], none, none⟩,
    Client.fail (.connection "kill failed")⟩

/-- The session is not deleted, and what is reported is that the driver could not be stopped. -/
theorem close_hides_deletion :
    ((abandoned.tell .deleteSession .unavailable).run ⟨(), 0, 0, []⟩).outcome
        = .error (.connection "reset")
      ∧ ((abandoned.close .unavailable).run ⟨(), 0, 0, []⟩).outcome
        = .error (.connection "kill failed") :=
  ⟨rfl, rfl⟩

end Session

end WebDriverClient
