/-
**What the remote end answers.**

The trace of an operation says of every request what came of it.  That is shown to be what the
transport of the session answers in the state in which the remote end is when the request is sent.
An exchange finds the remote end as the exchange before it has left it; whatever else happens leaves
the remote end alone, except that a launcher which is told to stop may do anything.

Main definitions:

* `Answered` — the traces whose exchanges end as the transport answers them;
* `Client.IsAnswered` — the operations that leave such traces.

Main results:

* `Client.isAnswered_exchange` — an exchange ends as the transport answers it;
* `Client.isAnswered_waitUntil` — so do the exchanges of a wait;
* `SessionOperation.isAnswered_perform`, `WindowOperation.isAnswered_perform`,
  `ElementOperation.isAnswered_perform` — **so do those of every operation**.
-/

import WebDriverClient.Proofs.Browsing.Led

set_option autoImplicit false

namespace WebDriverClient

variable {σ α β : Type} {s : Session σ}

/-! ### Answered traces -/

/-- From one state of the remote end to another, every exchange of the trace ends as the transport
of the session answers its request in the state that it finds. -/
inductive Answered (s : Session σ) : σ → List Event → σ → Prop
  | nil {u : σ} : Answered s u [] u
  | exchange {u v : σ} {call : Call} {request : Request} {t : List Event}
      (rest : Answered s (s.transport request u).2 t v) :
      Answered s u (.exchange call request (s.transport request u).1.outcome :: t) v
  | check {u v : σ} {time : Nat} {t : List Event} (rest : Answered s u t v) :
      Answered s u (.check time :: t) v
  -- What the launcher does then is its own.
  | stop {w : World σ} {v : σ} {t : List Event}
      (rest : Answered s (s.launcher.halt.run w).world.remote t v) :
      Answered s w.remote (.stop :: (s.launcher.halt.run w).trace ++ t) v

/-- One trace after the other. -/
theorem Answered.append {u v w : σ} {t t' : List Event} (ht : Answered s u t v)
    (ht' : Answered s v t' w) : Answered s u (t ++ t') w := by
  induction ht with
  | nil => exact ht'
  | exchange _ ih => exact .exchange (ih ht')
  | check _ ih => exact .check (ih ht')
  | stop _ ih =>
      rw [List.append_assoc]
      exact .stop (ih ht')

/-! ### Operations -/

namespace Client

/-- Wherever the operation runs, its exchanges end as the transport of the session answers them. -/
def IsAnswered (s : Session σ) (x : Client σ α) : Prop :=
  ∀ v, Answered s v.remote (x.run v).trace (x.run v).world.remote

theorem isAnswered_pure (a : α) : (pure a : Client σ α).IsAnswered s := fun _ => .nil

theorem isAnswered_fail (e : Failure) : (fail e : Client σ α).IsAnswered s := fun _ => .nil

theorem isAnswered_ofExcept (r : Except Failure α) : (ofExcept r : Client σ α).IsAnswered s :=
  fun _ => .nil

/-- **An exchange ends as the transport answers it** in the state that it finds. -/
theorem isAnswered_exchange (s : Session σ) (call : Call) (request : Request) :
    (exchange s.transport call request).IsAnswered s := fun _ => .exchange .nil

theorem isAnswered_stop (s : Session σ) : s.launcher.stop.IsAnswered s := by
  intro v
  have alone : Answered s v.remote (.stop :: (s.launcher.halt.run v).trace ++ [])
      (s.launcher.halt.run v).world.remote := .stop .nil
  rw [List.append_nil] at alone
  exact alone

/-- Only what the results are like matters for what the operation goes on with. -/
theorem IsAnswered.bind_delivers {P : List Event → Prop} {Q : α → Prop} {x : Client σ α}
    {f : α → Client σ β} (hx : x.IsAnswered s) (delivers : x.Ensures P (Delivers Q))
    (hf : ∀ a, Q a → (f a).IsAnswered s) : (x >>= f).IsAnswered s := by
  intro v
  cases hr : (x.run v).outcome with
  | ok a =>
      rw [run_bind_ok hr]
      exact (hx v).append (hf a ((delivers v).2 a hr) _)
  | error e =>
      rw [run_bind_error hr]
      exact hx v

/-- An operation that goes on with the result of another. -/
theorem IsAnswered.bind {x : Client σ α} {f : α → Client σ β} (hx : x.IsAnswered s)
    (hf : ∀ a, (f a).IsAnswered s) : (x >>= f).IsAnswered s :=
  hx.bind_delivers (P := fun _ => True) (Q := fun _ => True)
    (fun _ => ⟨trivial, fun _ _ => trivial⟩) fun a _ => hf a

theorem IsAnswered.map {x : Client σ α} (hx : x.IsAnswered s) (f : α → β) :
    (f <$> x).IsAnswered s := hx.bind fun _ => isAnswered_pure _

theorem IsAnswered.attempt {x : Client σ α} (hx : x.IsAnswered s) : x.attempt.IsAnswered s :=
  fun v => hx v

theorem answered_of_waits {check : Client σ (Poll α)} (hc : check.IsAnswered s)
    {interval deadline : Nat} {v : World σ} {r : Run σ (Option α)}
    (h : Waits check interval deadline v r) : Answered s v.remote r.trace r.world.remote := by
  induction h with
  | decided | expired => exact .check (hc _)
  | paused _ _ _ ih => exact .check ((hc _).append ih)

/-- **The exchanges of a wait are those of its checks.** -/
theorem isAnswered_waitUntil {check : Client σ (Poll α)} (hc : check.IsAnswered s)
    (options : WaitOptions) : (waitUntil check options).IsAnswered s := by
  intro v
  rcases run_waitUntil_cases check options v with ⟨interval, waits⟩ | none
  · exact answered_of_waits hc waits
  · rw [none]
    exact .nil

theorem isAnswered_bytes (encoded : String) :
    (bytes encoded : Client σ (List UInt8)).IsAnswered s := by
  unfold bytes
  split
  · exact isAnswered_pure _
  · exact isAnswered_fail _

theorem isAnswered_resolve (locator : Locator) :
    (resolve locator : Client σ Locator.Query).IsAnswered s := isAnswered_ofExcept _

end Client

/-! ### Requests -/

namespace Session

variable (s : Session σ)

theorem isAnswered_submit (request : Request) (call : Call) :
    (s.submit request call).IsAnswered s :=
  (Client.isAnswered_exchange s call request).bind fun _ => Client.isAnswered_ofExcept _

theorem isAnswered_ask (command : Command) (context : CallSite) (decoder : Json.Decoder α) :
    (s.ask command context decoder).IsAnswered s :=
  (s.isAnswered_submit _ _).bind fun _ => Client.isAnswered_ofExcept _

theorem isAnswered_tell (command : Command) (context : CallSite) :
    (s.tell command context).IsAnswered s :=
  (s.isAnswered_submit _ _).bind fun _ => Client.isAnswered_pure _

end Session

namespace Window

variable (w : Window σ)

theorem isAnswered_makeCurrent (call : Call) : (w.makeCurrent call).IsAnswered w.session :=
  (w.session.isAnswered_submit _ _).bind fun _ => Client.isAnswered_pure _

theorem isAnswered_send (command : Command) (call : Call) :
    (w.send command call).IsAnswered w.session :=
  (w.isAnswered_makeCurrent call).bind fun _ => w.session.isAnswered_submit _ _

theorem isAnswered_ask (command : Command) (context : CallSite) (decoder : Json.Decoder α) :
    (w.ask command context decoder).IsAnswered w.session :=
  (w.isAnswered_send _ _).bind fun _ => Client.isAnswered_ofExcept _

theorem isAnswered_tell (command : Command) (context : CallSite) :
    (w.tell command context).IsAnswered w.session :=
  (w.isAnswered_send _ _).bind fun _ => Client.isAnswered_pure _

end Window

namespace Element

variable (e : Element σ)

theorem isAnswered_ask (command : Command) (context : CallSite) (decoder : Json.Decoder α) :
    (e.ask command context decoder).IsAnswered e.window.session :=
  (e.window.isAnswered_send _ _).bind fun _ => Client.isAnswered_ofExcept _

theorem isAnswered_tell (command : Command) (context : CallSite) :
    (e.tell command context).IsAnswered e.window.session :=
  (e.window.isAnswered_send _ _).bind fun _ => Client.isAnswered_pure _

theorem isAnswered_findElement (context : CallSite) (locator : Locator) :
    (e.findElement context locator).IsAnswered e.window.session :=
  (Client.isAnswered_resolve locator).bind fun _ =>
    (e.isAnswered_ask _ _ _).bind fun _ => Client.isAnswered_pure _

theorem isAnswered_findAllByQuery (context : CallSite) (query : Locator.Query) :
    (e.findAllByQuery context query).IsAnswered e.window.session :=
  (e.isAnswered_ask _ _ _).bind fun _ => Client.isAnswered_pure _

theorem isAnswered_findElements (context : CallSite) (locator : Locator) :
    (e.findElements context locator).IsAnswered e.window.session :=
  (Client.isAnswered_resolve locator).bind fun query =>
    e.isAnswered_findAllByQuery context query.anchored

end Element

/-! ### Finds and waits in a window -/

namespace Window

variable (w : Window σ) (context : CallSite)

theorem isAnswered_findByQuery (query : Locator.Query) :
    (w.findByQuery context query).IsAnswered w.session :=
  (w.isAnswered_ask _ _ _).bind fun _ => Client.isAnswered_pure _

theorem isAnswered_findElement (locator : Locator) :
    (w.findElement context locator).IsAnswered w.session :=
  (Client.isAnswered_resolve locator).bind fun query => w.isAnswered_findByQuery context query

theorem isAnswered_findElements (locator : Locator) :
    (w.findElements context locator).IsAnswered w.session :=
  (Client.isAnswered_resolve locator).bind fun _ =>
    (w.isAnswered_ask _ _ _).bind fun _ => Client.isAnswered_pure _

theorem isAnswered_activeElement : (w.activeElement context).IsAnswered w.session :=
  (w.isAnswered_ask _ _ _).bind fun _ => Client.isAnswered_pure _

theorem isAnswered_probeElement (query : Locator.Query) (condition : ElementCondition) :
    (w.probeElement context query condition).IsAnswered w.session := by
  -- The element is asked about in the window in which it has been found.
  refine (w.isAnswered_findByQuery context query).bind_delivers (w.led_findByQuery context query) ?_
  rintro e rfl
  cases condition with
  | presence => exact Client.isAnswered_pure _
  | enabled =>
      refine (e.isAnswered_ask _ _ _).bind fun enabled => ?_
      cases enabled with
      | true => exact Client.isAnswered_pure _
      | false => exact Client.isAnswered_pure _

theorem isAnswered_reportTimeout (condition : String) (query : Option Locator.Query)
    (options : WaitOptions) :
    (w.reportTimeout context condition query options : Client σ α).IsAnswered w.session :=
  (w.isAnswered_ask _ _ _).attempt.bind fun _ => Client.isAnswered_fail _

theorem isAnswered_waitForElement (locator : Locator) (condition : ElementCondition)
    (options : WaitOptions) :
    (w.waitForElement context locator condition options).IsAnswered w.session := by
  refine (Client.isAnswered_resolve locator).bind fun query => ?_
  refine (Client.isAnswered_waitUntil (w.isAnswered_probeElement context query condition)
    options).bind fun found => ?_
  cases found with
  | some e => exact Client.isAnswered_pure e
  | none => exact w.isAnswered_reportTimeout context _ _ options

theorem isAnswered_waitForDocument (condition : DocumentCondition) (options : WaitOptions) :
    (w.waitForDocument context condition options).IsAnswered w.session := by
  have probe : (w.probeDocument context condition).IsAnswered w.session :=
    (w.isAnswered_ask _ _ _).bind fun _ => Client.isAnswered_pure _
  refine (Client.isAnswered_waitUntil probe options).bind fun found => ?_
  cases found with
  | some u => exact Client.isAnswered_pure _
  | none => exact w.isAnswered_reportTimeout context _ _ options

end Window

/-! ### All operations -/

/-- **The exchanges of an operation on a session end as its transport answers them.** -/
theorem SessionOperation.isAnswered_perform (context : CallSite) (s : Session σ)
    (operation : SessionOperation) : (operation.perform context s).IsAnswered s := by
  cases operation with
  | status => exact ((s.isAnswered_submit _ _).bind fun _ => Client.isAnswered_ofExcept _).map _
  | timeouts | url | title => exact (s.isAnswered_ask _ _ _).map _
  | setTimeouts | navigate | back | forward | refresh => exact (s.isAnswered_tell _ _).map _
  | window | windows | newWindow =>
      exact ((s.isAnswered_ask _ _ _).bind fun _ => Client.isAnswered_pure _).map _
  | close =>
      refine Client.IsAnswered.map ?_ _
      refine (s.isAnswered_tell _ _).attempt.bind fun _ => ?_
      exact (Client.isAnswered_stop s).bind fun _ => Client.isAnswered_ofExcept _

/-- **The exchanges of an operation on a window end as the transport answers them.** -/
theorem WindowOperation.isAnswered_perform {context : CallSite} {elements : List (Element σ)}
    {w : Window σ} {operation : WindowOperation} {x : Client σ (Answer σ)}
    (h : operation.perform context elements w = some x) : x.IsAnswered w.session := by
  cases operation with
  | focus =>
      cases h
      exact (w.isAnswered_makeCurrent _).map _
  | findElement locator =>
      cases h
      exact (w.isAnswered_findElement context locator).map _
  | findElements locator =>
      cases h
      exact (w.isAnswered_findElements context locator).map _
  | activeElement =>
      cases h
      exact (w.isAnswered_activeElement context).map _
  | waitForElement locator condition options =>
      cases h
      exact (w.isAnswered_waitForElement context locator condition options).map _
  | waitForDocument condition options =>
      cases h
      exact (w.isAnswered_waitForDocument context condition options).map _
  | execute | executeAsync =>
      obtain ⟨script, -, rfl⟩ := Option.map_eq_some_iff.1 h
      exact (w.isAnswered_ask _ _ _).map _
  | screenshot | print =>
      cases h
      exact ((w.isAnswered_ask _ _ _).bind fun encoded => Client.isAnswered_bytes encoded).map _
  | close =>
      cases h
      exact ((w.isAnswered_ask _ _ _).bind fun _ => Client.isAnswered_pure _).map _
  | navigate | back | forward | refresh | addCookie | deleteCookie | deleteAllCookies =>
      cases h
      exact (w.isAnswered_tell _ _).map _
  | rect | setRect | maximize | minimize | fullscreen | url | title | pageSource | readyState
  | cookies | cookie =>
      cases h
      exact (w.isAnswered_ask _ _ _).map _

/-- **The exchanges of an operation on an element end as the transport answers them.** -/
theorem ElementOperation.isAnswered_perform (context : CallSite) (e : Element σ)
    (operation : ElementOperation) :
    (operation.perform context e).IsAnswered e.window.session := by
  cases operation with
  | findElement locator => exact (e.isAnswered_findElement context locator).map _
  | findElements locator => exact (e.isAnswered_findElements context locator).map _
  | children => exact (e.isAnswered_findAllByQuery context _).map _
  | screenshot =>
      exact ((e.isAnswered_ask _ _ _).bind fun encoded => Client.isAnswered_bytes encoded).map _
  | click | clear | write | writeEnding | press | pressAll => exact (e.isAnswered_tell _ _).map _
  | text | tagName | rect | computedLabel | attributeOf | property | cssValue | isSelected
  | isEnabled => exact (e.isAnswered_ask _ _ _).map _

end WebDriverClient
