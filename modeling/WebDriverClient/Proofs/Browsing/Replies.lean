/-
**What replies come to.**

What an operation comes to is told here from the exchanges that it leaves in its trace, and from
nothing else: neither the remote end nor what carries the requests occurs in the relations.

Main definitions:

* `reply` — what comes of a request, by how its exchange ended;
* `readAs` — what comes of a reply that is read as a value of a type;
* `Window.Sends`, `Window.Asks` — the exchanges of a command in a window, and what they come to.

Main results:

* `Session.run_submit` — what is sent in a session comes to what its exchange says;
* `Window.sends_send`, `Window.asks_ask`, `Element.asks_ask` — what is sent on behalf of a window or
  an element comes to what its exchanges say.
-/

import WebDriverClient.Proofs.Browsing.Led
import WebDriverClient.Proofs.Browsing.Polling

set_option autoImplicit false

namespace WebDriverClient

variable {σ α : Type}

/-! ### Replies -/

/-- What comes of a request: what its response stands for, if there is one. -/
def reply (command : String) (call : Call) : Except Failure Response → Except Failure Json
  | .ok response => response.outcome command call
  | .error e => .error e

/-- What comes of a reply whose value is read. -/
def readAs (decoder : Json.Decoder α) : Except Failure Json → Except Failure α
  | .ok value => (decoder value).mapError .json
  | .error e => .error e

/-- Sending a request is one exchange, and comes to what the exchange says. -/
theorem Session.run_submit (s : Session σ) (request : Request) (call : Call) (v : World σ) :
    (s.submit request call).run v =
      { (Client.exchange s.transport call request).run v with
        outcome :=
          reply request.name call ((Client.exchange s.transport call request).run v).outcome } := by
  have parts : s.submit request call =
      Client.exchange s.transport call request >>= fun r =>
        Client.ofExcept (r.outcome request.name call) := rfl
  have of_except (r : Response) (u : World σ) :
      (Client.ofExcept (r.outcome request.name call) : Client σ Json).run u =
        ⟨r.outcome request.name call, [], u⟩ := rfl
  cases hr : ((Client.exchange s.transport call request).run v).outcome with
  | error e =>
      rw [parts, Client.run_bind_error hr]
      rfl
  | ok r =>
      rw [parts, Client.run_bind_ok hr, of_except, List.append_nil]
      rfl

/-- Sending a command is one exchange. -/
theorem Session.exists_run_send (s : Session σ) (command : Command) (call : Call) (v : World σ) :
    ∃ o, ((s.send command call).run v).trace = [.exchange call (command.request s.id) o] ∧
      ((s.send command call).run v).outcome = reply command.name call o := by
  rw [send, s.run_submit]
  exact ⟨_, rfl, rfl⟩

theorem Session.advances_send (s : Session σ) (command : Command) (call : Call) :
    (s.send command call).Advances :=
  (Client.advances_exchange s.transport call _).bind fun _ => Client.advances_ofExcept _

/-- What is read of the result of an operation leaves its trace alone. -/
theorem Client.run_decode_bind {x : Client σ Json} {decoder : Json.Decoder α} (v : World σ) :
    (x >>= Client.decode decoder).run v =
      ⟨readAs decoder (x.run v).outcome, (x.run v).trace, (x.run v).world⟩ := by
  cases hr : (x.run v).outcome with
  | error e =>
      rw [Client.run_bind_error hr]
      rfl
  | ok value =>
      rw [Client.run_bind_ok hr]
      have decode : (Client.decode decoder value).run (x.run v).world =
          ⟨(decoder value).mapError .json, [], (x.run v).world⟩ := rfl
      rw [decode, List.append_nil]
      rfl

/-- Without a query nothing happens, and with one only what is done with it. -/
theorem Client.run_resolve_bind (locator : Locator) (f : Locator.Query → Client σ α)
    (v : World σ) :
    (Client.resolve locator >>= f).run v =
      match locator.resolve with
      | .error e => ⟨.error (.locator e), [], v⟩
      | .ok query => (f query).run v := by
  have resolved : (Client.resolve locator : Client σ Locator.Query).run v =
      ⟨locator.resolve.mapError .locator, [], v⟩ := rfl
  have outcome := congrArg Run.outcome resolved
  cases hq : locator.resolve with
  | error e =>
      rw [hq] at resolved outcome
      rw [Client.run_bind_error outcome, resolved]
  | ok query =>
      rw [hq] at resolved outcome
      rw [Client.run_bind_ok outcome, resolved]
      rfl

/-! ### Commands in a window -/

namespace Window

variable (w : Window σ)

/-- The exchanges of a command in a window and what they come to.  The window is switched to first,
and the command is sent only after a switch that was answered with a success. -/
inductive Sends (command : Command) (call : Call) : List Event → Except Failure Json → Prop
  | refused {o : Except Failure Response} {e : Failure}
      (switch : reply "switch to window" call o = .error e) :
      Sends command call [.exchange call w.switch o] (.error e)
  | sent {o p : Except Failure Response} {value : Json}
      (switch : reply "switch to window" call o = .ok value) :
      Sends command call
        [.exchange call w.switch o, .exchange call (command.request w.session.id) p]
        (reply command.name call p)

/-- The exchanges of a command whose reply is read, and what they come to. -/
def Asks (command : Command) (call : Call) (decoder : Json.Decoder α) (t : List Event)
    (outcome : Except Failure α) : Prop :=
  ∃ r, w.Sends command call t r ∧ outcome = readAs decoder r

/-- A window is switched to by one exchange. -/
theorem exists_run_makeCurrent (call : Call) (v : World σ) :
    ∃ o, ((w.makeCurrent call).run v).trace = [.exchange call w.switch o] ∧
      ((w.makeCurrent call).run v).outcome = (reply "switch to window" call o).map fun _ => () := by
  obtain ⟨o, trace, outcome⟩ := w.session.exists_run_send (.switchToWindow w.handle) call v
  have parts : w.makeCurrent call =
      w.session.send (.switchToWindow w.handle) call >>= fun _ => pure () := rfl
  have name : (Command.switchToWindow w.handle).name = "switch to window" := rfl
  rw [name] at outcome
  rw [parts, Client.run_bind_pure, trace, outcome]
  exact ⟨o, rfl, rfl⟩

/-- **What is sent in a window comes to what its exchanges say.** -/
theorem sends_send (command : Command) (call : Call) (v : World σ) :
    w.Sends command call ((w.send command call).run v).trace
      ((w.send command call).run v).outcome := by
  obtain ⟨o, trace, outcome⟩ := w.exists_run_makeCurrent call v
  have parts : w.send command call =
      w.makeCurrent call >>= fun _ => w.session.send command call := rfl
  cases hr : reply "switch to window" call o with
  | error e =>
      rw [hr] at outcome
      rw [parts, Client.run_bind_error outcome, trace]
      exact .refused hr
  | ok value =>
      rw [hr] at outcome
      obtain ⟨p, trace', outcome'⟩ :=
        w.session.exists_run_send command call ((w.makeCurrent call).run v).world
      rw [parts, Client.run_bind_ok outcome, trace, trace', outcome']
      exact .sent hr

theorem advances_send (command : Command) (call : Call) : (w.send command call).Advances :=
  ((w.session.advances_send _ call).bind fun _ => Client.advances_pure ()).bind fun _ =>
    w.session.advances_send command call

/-- **What is asked in a window comes to what its exchanges say.** -/
theorem asks_ask (command : Command) (context : CallSite) (decoder : Json.Decoder α)
    (v : World σ) :
    w.Asks command (w.call context) decoder ((w.ask command context decoder).run v).trace
      ((w.ask command context decoder).run v).outcome := by
  have run : (w.ask command context decoder).run v = _ :=
    Client.run_decode_bind (x := w.send command (w.call context)) v
  rw [run]
  exact ⟨_, w.sends_send command (w.call context) v, rfl⟩

theorem advances_ask (command : Command) (context : CallSite) (decoder : Json.Decoder α) :
    (w.ask command context decoder).Advances :=
  (w.advances_send command (w.call context)).bind fun _ => Client.advances_ofExcept _

end Window

/-- **What is asked of an element comes to what its exchanges say.** -/
theorem Element.asks_ask (e : Element σ) (command : Command) (context : CallSite)
    (decoder : Json.Decoder α) (v : World σ) :
    e.window.Asks command (e.call context) decoder ((e.ask command context decoder).run v).trace
      ((e.ask command context decoder).run v).outcome := by
  have run : (e.ask command context decoder).run v = _ :=
    Client.run_decode_bind (x := e.window.send command (e.call context)) v
  rw [run]
  exact ⟨_, e.window.sends_send command (e.call context) v, rfl⟩

theorem Element.advances_ask (e : Element σ) (command : Command) (context : CallSite)
    (decoder : Json.Decoder α) : (e.ask command context decoder).Advances :=
  (e.window.advances_send command (e.call context)).bind fun _ => Client.advances_ofExcept _

end WebDriverClient
