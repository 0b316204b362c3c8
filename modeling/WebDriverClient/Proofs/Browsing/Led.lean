/-
**Requests that a switch leads.**

The remote end acts on one window at a time, so whatever is done in a window, or to an element of
it, must find that window the current one.  No operation relies on what was current before it: each
of its requests is sent right after one that makes the window current, and only if that one was a
success.  This is shown of `Window.send`, through which all of them go, and then of every operation
from the way it is put together.

Main definitions:

* `Succeeded` — an exchange was answered with a success;
* `Led` — the traces in which every request but switches follows a switch that was a success;
* `Answer.Within` — the answers that deliver nothing but elements of one window.

Main results:

* `Window.led_send` — a window leads each of its requests;
* `WindowOperation.led_perform`, `ElementOperation.led_perform` — so does every operation.
-/

import WebDriverClient.Browsing.Conversation
import WebDriverClient.Proofs.Browsing.Polling

set_option autoImplicit false

namespace WebDriverClient

variable {σ : Type}

/-! ### Led traces -/

/-- The exchange was answered with a success. -/
def Succeeded (outcome : Except Failure Response) : Prop :=
  ∃ r v, outcome = .ok r ∧ r.status = 200 ∧ r.value? = some v

/-- The request that makes a window the current one. -/
def switchRequest (session : SessionId) (handle : WindowHandle) : Request :=
  (Command.switchToWindow handle).request session

/-- Every request but switches follows a switch that was a success. -/
inductive Led (switch : Request) : List Event → Prop
  | nil : Led switch []
  | check {time : Nat} {t : List Event} (ht : Led switch t) : Led switch (.check time :: t)
  | switch {c : Call} {o : Except Failure Response} {t : List Event} (ht : Led switch t) :
      Led switch (.exchange c switch o :: t)
  | request {c d : Call} {r : Request} {o p : Except Failure Response} {t : List Event}
      (ho : Succeeded o) (ht : Led switch t) :
      Led switch (.exchange c switch o :: .exchange d r p :: t)

theorem Led.append {switch : Request} {t u : List Event} (ht : Led switch t)
    (hu : Led switch u) : Led switch (t ++ u) := by
  induction ht with
  | nil => exact hu
  | check _ ih => exact .check ih
  | switch _ ih => exact .switch ih
  | request ho _ ih => exact .request ho ih

theorem Led.composes (switch : Request) : Client.Composes (Led switch) := ⟨.nil, Led.append⟩

/-! ### Requests -/

/-- A response that is a value is a success. -/
theorem succeeded_of_outcome {r : Response} {name : String} {call : Call} {v : Json}
    (h : r.outcome name call = .ok v) : Succeeded (.ok r) := by
  unfold Response.outcome at h
  split at h
  next hs =>
    split at h
    next u hu => exact ⟨r, u, rfl, hs, hu⟩
    next => cases h
  next =>
    split at h
    · split at h <;> cases h
    · cases h

/-- Sending a command is one exchange, which is a success if there is a result. -/
theorem Session.run_send (s : Session σ) (command : Command) (call : Call) (w : World σ) :
    ∃ o, ((s.send command call).run w).trace = [.exchange call (command.request s.id) o] ∧
      ∀ v, ((s.send command call).run w).outcome = .ok v → Succeeded o := by
  change ∃ o, ((Client.exchange s.transport call (command.request s.id) >>= fun r =>
    Client.ofExcept (r.outcome command.name call)).run w).trace = [.exchange call _ o] ∧ ∀ v,
    ((Client.exchange s.transport call (command.request s.id) >>= fun r =>
      Client.ofExcept (r.outcome command.name call)).run w).outcome = .ok v → Succeeded o
  cases hr : ((Client.exchange s.transport call (command.request s.id)).run w).outcome with
  | error e =>
      refine ⟨.error e, ?_⟩
      rw [(Client.trace_bind_error hr).1, (Client.trace_bind_error hr).2]
      exact ⟨by rw [← hr]; rfl, fun v hv => by cases hv⟩
  | ok r =>
      refine ⟨.ok r, ?_⟩
      rw [(Client.trace_bind_ok hr).1, (Client.trace_bind_ok hr).2]
      exact ⟨by rw [← hr]; rfl, fun v hv => succeeded_of_outcome hv⟩

namespace Window

/-- The request that makes the window the current one. -/
def switch (w : Window σ) : Request := switchRequest w.session.id w.handle

/-- Making a window the current one is one switch, which is a success if it succeeds. -/
theorem run_makeCurrent (w : Window σ) (call : Call) (world : World σ) :
    ∃ o, ((w.makeCurrent call).run world).trace = [.exchange call w.switch o] ∧
      (((w.makeCurrent call).run world).outcome = .ok () → Succeeded o) := by
  obtain ⟨o, trace, success⟩ := w.session.run_send (.switchToWindow w.handle) call world
  have parts : w.makeCurrent call = w.session.send (.switchToWindow w.handle) call >>= fun _ =>
      pure () := rfl
  refine ⟨o, ?_⟩
  cases hr : ((w.session.send (.switchToWindow w.handle) call).run world).outcome with
  | error e =>
      rw [parts, (Client.trace_bind_error hr).1, (Client.trace_bind_error hr).2, trace]
      exact ⟨rfl, fun h => by cases h⟩
  | ok v =>
      rw [parts, (Client.trace_bind_ok hr).1, (Client.trace_bind_ok hr).2, trace]
      exact ⟨rfl, fun _ => success v hr⟩

theorem led_makeCurrent (w : Window σ) (call : Call) :
    (w.makeCurrent call).Ensures (Led w.switch) (Client.Delivers fun _ => True) := by
  intro world
  obtain ⟨o, trace, -⟩ := w.run_makeCurrent call world
  rw [trace]
  exact ⟨.switch .nil, fun _ _ => trivial⟩

/-- **A window leads each of its requests.** -/
theorem led_send (w : Window σ) (command : Command) (call : Call) :
    (w.send command call).Ensures (Led w.switch) (Client.Delivers fun _ => True) := by
  intro world
  refine ⟨?_, fun _ _ => trivial⟩
  obtain ⟨o, trace, success⟩ := w.run_makeCurrent call world
  have parts : w.send command call = w.makeCurrent call >>= fun _ => w.session.send command call :=
    rfl
  cases hr : ((w.makeCurrent call).run world).outcome with
  | error e =>
      -- The switch was refused, and the command is not sent.
      rw [parts, (Client.trace_bind_error hr).1, trace]
      exact .switch .nil
  | ok u =>
      obtain ⟨p, request, -⟩ :=
        w.session.run_send command call ((w.makeCurrent call).run world).world
      rw [parts, (Client.trace_bind_ok hr).1, trace, request]
      exact .request (success hr) .nil

theorem led_ask {α : Type} (w : Window σ) (command : Command) (context : CallSite)
    (decoder : Json.Decoder α) :
    (w.ask command context decoder).Ensures (Led w.switch) (Client.Delivers fun _ => True) :=
  (w.led_send command (w.call context)).bind_delivers (Led.composes _) fun _ _ =>
    Client.ensures_ofExcept (Led.composes _) fun _ _ => trivial

theorem led_tell (w : Window σ) (command : Command) (context : CallSite) :
    (w.tell command context).Ensures (Led w.switch) (Client.Delivers fun _ => True) :=
  (w.led_send command (w.call context)).bind_delivers (Led.composes _) fun _ _ =>
    Client.ensures_pure (Led.composes _) fun _ _ => trivial

theorem led_bytes (w : Window σ) (encoded : String) :
    (Client.bytes encoded : Client σ (List UInt8)).Ensures (Led w.switch)
      (Client.Delivers fun _ => True) := by
  unfold Client.bytes
  split
  · exact Client.ensures_pure (Led.composes _) fun _ _ => trivial
  · exact Client.ensures_fail (Led.composes _) fun _ h => by cases h

/-! ### Finds and waits -/

theorem led_findByQuery (w : Window σ) (context : CallSite) (query : Locator.Query) :
    (w.findByQuery context query).Ensures (Led w.switch)
      (Client.Delivers fun e => e.window = w) :=
  (w.led_ask _ context _).bind_delivers (Led.composes _) fun _ _ =>
    Client.ensures_pure (Led.composes _) fun e he => by cases he; rfl

theorem led_resolve (w : Window σ) (locator : Locator) :
    (Client.resolve locator : Client σ Locator.Query).Ensures (Led w.switch)
      (Client.Delivers fun _ => True) :=
  Client.ensures_ofExcept (Led.composes _) fun _ _ => trivial

theorem led_findElement (w : Window σ) (context : CallSite) (locator : Locator) :
    (w.findElement context locator).Ensures (Led w.switch)
      (Client.Delivers fun e => e.window = w) :=
  (w.led_resolve locator).bind_delivers (Led.composes _) fun query _ =>
    w.led_findByQuery context query

/-- Elements that have been found in a window are its own. -/
theorem led_elements (w : Window σ) (context : CallSite) (ids : List ElementId) :
    (pure (ids.map (w.elementOf context)) : Client σ (List (Element σ))).Ensures (Led w.switch)
      (Client.Delivers fun es => ∀ e ∈ es, e.window = w) := by
  refine Client.ensures_pure (Led.composes _) ?_
  intro es hes e he
  cases hes
  obtain ⟨id, -, rfl⟩ := List.mem_map.1 he
  rfl

theorem led_findElements (w : Window σ) (context : CallSite) (locator : Locator) :
    (w.findElements context locator).Ensures (Led w.switch)
      (Client.Delivers fun es => ∀ e ∈ es, e.window = w) :=
  (w.led_resolve locator).bind_delivers (Led.composes _) fun _ _ =>
    (w.led_ask _ context _).bind_delivers (Led.composes _) fun found _ =>
      w.led_elements context found

theorem led_activeElement (w : Window σ) (context : CallSite) :
    (w.activeElement context).Ensures (Led w.switch) (Client.Delivers fun e => e.window = w) :=
  (w.led_ask _ context _).bind_delivers (Led.composes _) fun _ _ =>
    Client.ensures_pure (Led.composes _) fun e he => by cases he; rfl

end Window

namespace Element

theorem led_ask {α : Type} (e : Element σ) (command : Command) (context : CallSite)
    (decoder : Json.Decoder α) :
    (e.ask command context decoder).Ensures (Led e.window.switch)
      (Client.Delivers fun _ => True) :=
  (e.window.led_send command (e.call context)).bind_delivers (Led.composes _) fun _ _ =>
    Client.ensures_ofExcept (Led.composes _) fun _ _ => trivial

theorem led_tell (e : Element σ) (command : Command) (context : CallSite) :
    (e.tell command context).Ensures (Led e.window.switch) (Client.Delivers fun _ => True) :=
  (e.window.led_send command (e.call context)).bind_delivers (Led.composes _) fun _ _ =>
    Client.ensures_pure (Led.composes _) fun _ _ => trivial

theorem led_findElement (e : Element σ) (context : CallSite) (locator : Locator) :
    (e.findElement context locator).Ensures (Led e.window.switch)
      (Client.Delivers fun f => f.window = e.window) :=
  (e.window.led_resolve locator).bind_delivers (Led.composes _) fun _ _ =>
    (e.led_ask _ context _).bind_delivers (Led.composes _) fun _ _ =>
      Client.ensures_pure (Led.composes _) fun f hf => by cases hf; rfl

theorem led_findAllByQuery (e : Element σ) (context : CallSite) (query : Locator.Query) :
    (e.findAllByQuery context query).Ensures (Led e.window.switch)
      (Client.Delivers fun fs => ∀ f ∈ fs, f.window = e.window) :=
  (e.led_ask _ context _).bind_delivers (Led.composes _) fun found _ =>
    e.window.led_elements context found

theorem led_findElements (e : Element σ) (context : CallSite) (locator : Locator) :
    (e.findElements context locator).Ensures (Led e.window.switch)
      (Client.Delivers fun fs => ∀ f ∈ fs, f.window = e.window) :=
  (e.window.led_resolve locator).bind_delivers (Led.composes _) fun query _ =>
    e.led_findAllByQuery context query.anchored

end Element

namespace Window

/-- A check of an element finds an element of the window. -/
theorem led_probeElement (w : Window σ) (context : CallSite) (query : Locator.Query)
    (condition : ElementCondition) :
    (w.probeElement context query condition).Ensures (Led w.switch)
      (Client.Delivers (Client.Finds fun e => e.window = w)) := by
  refine (w.led_findByQuery context query).bind_delivers (Led.composes _) ?_
  rintro e rfl
  have found : (pure (.ready e) : Client σ (Poll (Element σ))).Ensures (Led e.window.switch)
      (Client.Delivers (Client.Finds fun f => f.window = e.window)) :=
    Client.ensures_pure (Led.composes _) fun _ h => by cases h; rfl
  have pending : (pure .pending : Client σ (Poll (Element σ))).Ensures (Led e.window.switch)
      (Client.Delivers (Client.Finds fun f => f.window = e.window)) :=
    Client.ensures_pure (Led.composes _) fun _ h => by cases h; trivial
  cases condition with
  | presence => exact found
  | enabled =>
      refine (e.led_ask _ context _).bind_delivers (Led.composes _) fun enabled _ => ?_
      cases enabled with
      | true => exact found
      | false => exact pending

theorem led_probeDocument (w : Window σ) (context : CallSite) (condition : DocumentCondition) :
    (w.probeDocument context condition).Ensures (Led w.switch)
      (Client.Delivers (Client.Finds fun _ => True)) := by
  refine (w.led_ask _ context _).bind_delivers (Led.composes _) fun state _ => ?_
  refine Client.ensures_pure (Led.composes _) ?_
  intro poll _
  cases poll <;> trivial

theorem led_reportTimeout {α : Type} (w : Window σ) (context : CallSite) (condition : String)
    (query : Option Locator.Query) (options : WaitOptions) {Q : α → Prop} :
    (w.reportTimeout context condition query options : Client σ α).Ensures (Led w.switch)
      (Client.Delivers Q) := by
  have source := (w.led_ask .getPageSource context Json.Decoder.string).attempt
    (R := fun _ => True) fun _ _ => trivial
  refine source.bind_delivers (Led.composes _) fun _ _ => ?_
  exact Client.ensures_fail (Led.composes _) fun _ h => by cases h

theorem led_waitForElement (w : Window σ) (context : CallSite) (locator : Locator)
    (condition : ElementCondition) (options : WaitOptions) :
    (w.waitForElement context locator condition options).Ensures (Led w.switch)
      (Client.Delivers fun e => e.window = w) := by
  refine (w.led_resolve locator).bind_delivers (Led.composes _) fun query _ => ?_
  have wait := Client.ensures_waitUntil (Led.composes _) (fun _ => .check .nil)
    (w.led_probeElement context query condition) options
  refine wait.bind_delivers (Led.composes _) fun found hfound => ?_
  cases found with
  | none => exact w.led_reportTimeout context _ _ options
  | some e => exact Client.ensures_pure (Led.composes _) fun f hf => by cases hf; exact hfound e rfl

theorem led_waitForDocument (w : Window σ) (context : CallSite) (condition : DocumentCondition)
    (options : WaitOptions) :
    (w.waitForDocument context condition options).Ensures (Led w.switch)
      (Client.Delivers fun _ => True) := by
  have wait := Client.ensures_waitUntil (Led.composes _) (fun _ => .check .nil)
    (w.led_probeDocument context condition) options
  refine wait.bind_delivers (Led.composes _) fun found _ => ?_
  cases found with
  | none => exact w.led_reportTimeout context _ _ options
  | some u => exact Client.ensures_pure (Led.composes _) fun _ _ => trivial

end Window

/-! ### Operations -/

/-- The answer delivers no window, and only elements of a window. -/
def Answer.Within (w : Window σ) (a : Answer σ) : Prop :=
  a.newWindows = [] ∧ ∀ e ∈ a.newElements, e.window = w

/-- An answer that delivers nothing comes from any window. -/
theorem led_plain {α : Type} {w : Window σ} {x : Client σ α} {f : α → Answer σ}
    (hx : x.Ensures (Led w.switch) (Client.Delivers fun _ => True))
    (hw : ∀ a, (f a).newWindows = []) (he : ∀ a, (f a).newElements = []) :
    (f <$> x).Ensures (Led w.switch) (Client.Delivers (Answer.Within w)) :=
  hx.map (Led.composes _) fun a _ => ⟨hw a, by simp [he a]⟩

theorem led_element {w : Window σ} {x : Client σ (Element σ)}
    (hx : x.Ensures (Led w.switch) (Client.Delivers fun e => e.window = w)) :
    (Answer.element <$> x).Ensures (Led w.switch) (Client.Delivers (Answer.Within w)) :=
  hx.map (Led.composes _) fun e he => ⟨rfl, by simpa [Answer.newElements] using he⟩

theorem led_elements {w : Window σ} {x : Client σ (List (Element σ))}
    (hx : x.Ensures (Led w.switch) (Client.Delivers fun es => ∀ e ∈ es, e.window = w)) :
    (Answer.elements <$> x).Ensures (Led w.switch) (Client.Delivers (Answer.Within w)) :=
  hx.map (Led.composes _) fun _ hes => ⟨rfl, hes⟩

/-- **Every operation on a window is led by it**, and delivers elements of it. -/
theorem WindowOperation.led_perform {context : CallSite} {elements : List (Element σ)}
    {w : Window σ} {operation : WindowOperation} {x : Client σ (Answer σ)}
    (h : operation.perform context elements w = some x) :
    x.Ensures (Led w.switch) (Client.Delivers (Answer.Within w)) := by
  cases operation with
  | focus =>
      cases h
      exact led_plain (w.led_makeCurrent _) (fun _ => rfl) fun _ => rfl
  | findElement locator =>
      cases h
      exact led_element (w.led_findElement context locator)
  | findElements locator =>
      cases h
      exact led_elements (w.led_findElements context locator)
  | activeElement =>
      cases h
      exact led_element (w.led_activeElement context)
  | waitForElement locator condition options =>
      cases h
      exact led_element (w.led_waitForElement context locator condition options)
  | waitForDocument condition options =>
      cases h
      exact led_plain (w.led_waitForDocument context condition options) (fun _ => rfl) fun _ => rfl
  | execute | executeAsync =>
      obtain ⟨script, -, rfl⟩ := Option.map_eq_some_iff.1 h
      exact led_plain (w.led_ask _ _ _) (fun _ => rfl) fun _ => rfl
  | screenshot | print =>
      cases h
      exact led_plain ((w.led_ask _ _ _).bind_delivers (Led.composes _) fun encoded _ =>
        w.led_bytes encoded) (fun _ => rfl) fun _ => rfl
  | close =>
      cases h
      exact led_plain ((w.led_ask _ _ _).bind_delivers (Led.composes _) fun _ _ =>
        Client.ensures_pure (Led.composes _) fun _ _ => trivial) (fun _ => rfl) fun _ => rfl
  | navigate | back | forward | refresh | addCookie | deleteCookie | deleteAllCookies =>
      cases h
      exact led_plain (w.led_tell _ _) (fun _ => rfl) fun _ => rfl
  | rect | setRect | maximize | minimize | fullscreen | url | title | pageSource | readyState
  | cookies | cookie =>
      cases h
      exact led_plain (w.led_ask _ _ _) (fun _ => rfl) fun _ => rfl

/-- **Every operation on an element is led by its window**, and delivers elements of the window. -/
theorem ElementOperation.led_perform (context : CallSite) (e : Element σ)
    (operation : ElementOperation) :
    (operation.perform context e).Ensures (Led e.window.switch)
      (Client.Delivers (Answer.Within e.window)) := by
  cases operation with
  | findElement locator => exact led_element (e.led_findElement context locator)
  | findElements locator => exact led_elements (e.led_findElements context locator)
  | children => exact led_elements (e.led_findAllByQuery context _)
  | screenshot =>
      exact led_plain ((e.led_ask _ _ _).bind_delivers (Led.composes _) fun encoded _ =>
        e.window.led_bytes encoded) (fun _ => rfl) fun _ => rfl
  | click | clear | write | writeEnding | press | pressAll =>
      exact led_plain (e.led_tell _ _) (fun _ => rfl) fun _ => rfl
  | text | tagName | rect | computedLabel | attributeOf | property | cssValue | isSelected
  | isEnabled => exact led_plain (e.led_ask _ _ _) (fun _ => rfl) fun _ => rfl

/-- An operation on a session delivers no element, and only windows of the session. -/
theorem SessionOperation.delivers_perform (context : CallSite) (s : Session σ)
    (operation : SessionOperation) :
    (operation.perform context s).Ensures (fun _ => True)
      (Client.Delivers fun a => a.newElements = [] ∧ ∀ w ∈ a.newWindows, w.session = s) := by
  have any : Client.Composes fun _ => True := ⟨trivial, fun _ _ => trivial⟩
  have plain {α : Type} (x : Client σ α) : x.Ensures (fun _ => True)
      (Client.Delivers fun _ => True) := fun _ => ⟨trivial, fun _ _ => trivial⟩
  cases operation with
  | window =>
      refine Client.Ensures.map any (Q := fun w => w.session = s) ?_ fun w hw => ⟨rfl, by
        simpa [Answer.newWindows] using hw⟩
      exact (plain _).bind_delivers any fun _ _ =>
        Client.ensures_pure any fun w hw => by cases hw; rfl
  | newWindow kind =>
      refine Client.Ensures.map any (Q := fun w => w.session = s) ?_ fun w hw => ⟨rfl, by
        simpa [Answer.newWindows] using hw⟩
      exact (plain _).bind_delivers any fun _ _ =>
        Client.ensures_pure any fun w hw => by cases hw; rfl
  | windows =>
      refine Client.Ensures.map any (Q := fun ws => ∀ w ∈ ws, w.session = s) ?_ fun ws hws =>
        ⟨rfl, hws⟩
      refine (plain _).bind_delivers any fun handles _ => Client.ensures_pure any ?_
      intro ws hws w hw
      cases hws
      obtain ⟨handle, -, rfl⟩ := List.mem_map.1 hw
      rfl
  | status | timeouts | setTimeouts | navigate | url | title | back | forward | refresh | close =>
      exact (plain _).map any fun _ _ => ⟨rfl, by simp [Answer.newWindows]⟩

end WebDriverClient
