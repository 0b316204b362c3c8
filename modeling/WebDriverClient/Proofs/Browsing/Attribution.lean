/-
**Whom an error is reported for.**

An error of the remote end says on whose behalf the request was sent, which command it was and with
which status it was answered.  All of this is shown to be that of one exchange in the trace, namely
of the one that comes to the error.  A session sends its requests itself.  What is done in a window
or to an element is a switch, whose error is reported for the switch, and a command; the one for the
element is sent on behalf of the element although the window is switched to.  A wait for an enabled
element alternates between the two.

Main definitions:

* `Reported` — an error is what came of an exchange;
* `FailsIn` — the exchanges of a command that comes to an error;
* `Client.Faults` — what is known of every error that an operation comes to;
* `SessionOperation.Blames`, `WindowOperation.Blames`, `ElementOperation.Blames` — the errors of an
  operation and the exchanges that they are of.

Main results:

* `Client.faults_waitUntil` — an error of a wait is one of its last check;
* `SessionOperation.faults_perform`, `WindowOperation.faults_perform`,
  `ElementOperation.faults_perform` — what the errors of an operation say;
* `Journal.blames_run` — **an error is reported for what the operation is done to, and for the
  command whose reply it is**.
-/

import WebDriverClient.Proofs.Browsing.ElementWait
import WebDriverClient.Proofs.Browsing.FirstResponder
import WebDriverClient.Proofs.Browsing.Teardown
import WebDriverClient.Proofs.Wire.Classification

set_option autoImplicit false

namespace WebDriverClient

variable {σ α β : Type}

/-! ### Exchanges that come to an error -/

/-- The error is what came of an exchange in which a command was sent. -/
inductive Reported (e : ProtocolError) (command : String) (call : Call) :
    Except Failure Response → Prop
  | replied {r : Response} {body : ErrorBody} (status : r.HasErrorStatus) (isError : r.IsError body)
      (reports : e.Reports body r.status command call) : Reported e command call (.ok r)
  | failed : Reported e command call (.error (.protocol e))

theorem reported_of_reply {e : ProtocolError} {command : String} {call : Call}
    {o : Except Failure Response} (h : reply command call o = .error (.protocol e)) :
    Reported e command call o := by
  cases o with
  | ok r =>
      obtain ⟨status, body, isError, reports⟩ := (r.outcome_eq_protocol_iff command call e).1 h
      exact .replied status isError reports
  | error f =>
      cases h
      exact .failed

/-- The exchanges of a command that comes to an error and is sent on behalf of `origin`: the switch
to the window comes to it, or the command after a switch that is a success. -/
inductive FailsIn (switch : Request) (origin : Origin) (command : String) (e : ProtocolError) :
    List Event → Prop
  | refused {context : CallSite} {o : Except Failure Response}
      (reported : Reported e "switch to window" ⟨origin, context⟩ o) :
      FailsIn switch origin command e [.exchange ⟨origin, context⟩ switch o]
  | failed {context : CallSite} {o p : Except Failure Response} {request : Request}
      (success : Succeeded o) (name : request.name = command)
      (reported : Reported e command ⟨origin, context⟩ p) :
      FailsIn switch origin command e
        [.exchange ⟨origin, context⟩ switch o, .exchange ⟨origin, context⟩ request p]

/-- Only the reply can be an error of the remote end, not what is read of it. -/
theorem reply_of_readAs {decoder : Json.Decoder α} {r : Except Failure Json} {e : ProtocolError}
    (h : readAs decoder r = .error (.protocol e)) : r = .error (.protocol e) := by
  cases r with
  | error f =>
      cases h
      rfl
  | ok value =>
      rw [readAs] at h
      cases hd : decoder value <;> rw [hd] at h <;> cases h

theorem Window.Sends.failsIn {w : Window σ} {command : Command} {call : Call} {t : List Event}
    {e : ProtocolError} (h : w.Sends command call t (.error (.protocol e))) :
    FailsIn w.switch call.origin command.name e t := by
  generalize hr : (Except.error (.protocol e) : Except Failure Json) = r at h
  cases h with
  | refused switch =>
      cases hr
      exact .refused (reported_of_reply switch)
  | @sent o p value switch =>
      obtain ⟨r, rfl, value⟩ : ∃ r, o = .ok r ∧ r.outcome "switch to window" call = .ok value := by
        cases o with
        | ok r => exact ⟨r, rfl, switch⟩
        | error f => cases switch
      exact .failed (succeeded_of_outcome value) rfl (reported_of_reply hr.symm)

theorem Window.Asks.failsIn {w : Window σ} {command : Command} {call : Call}
    {decoder : Json.Decoder α} {t : List Event} {e : ProtocolError}
    (h : w.Asks command call decoder t (.error (.protocol e))) :
    FailsIn w.switch call.origin command.name e t := by
  obtain ⟨r, sends, outcome⟩ := h
  rw [reply_of_readAs outcome.symm] at sends
  exact sends.failsIn

/-! ### Errors of operations -/

namespace Client

/-- Every error of the remote end that the operation comes to is related to its trace like this. -/
def Faults (B : ProtocolError → List Event → Prop) (x : Client σ α) : Prop :=
  ∀ v e, (x.run v).outcome = .error (.protocol e) → B e (x.run v).trace

/-- What happened before makes no difference to the relation. -/
def Lasting (B : ProtocolError → List Event → Prop) : Prop :=
  ∀ e t u, B e u → B e (t ++ u)

variable {B : ProtocolError → List Event → Prop}

theorem faults_pure (a : α) : (pure a : Client σ α).Faults B := fun _ _ h => nomatch h

theorem faults_attempt (x : Client σ α) : x.attempt.Faults B := fun _ _ h => nomatch h

/-- Values that cannot be read are not reported as errors of the remote end. -/
theorem faults_decode (decoder : Json.Decoder α) (value : Json) :
    (decode decoder value : Client σ α).Faults B := by
  intro v e h
  have outcome : ((decode decoder value : Client σ α).run v).outcome =
      (decoder value).mapError .json := rfl
  rw [outcome] at h
  cases hd : decoder value <;> rw [hd] at h <;> cases h

theorem faults_bytes (encoded : String) : (bytes encoded : Client σ (List UInt8)).Faults B := by
  unfold bytes
  split
  · exact faults_pure _
  · exact fun _ _ h => nomatch h

theorem faults_resolve_bind {locator : Locator} {f : Locator.Query → Client σ α}
    (hf : ∀ query, locator.resolve = .ok query → (f query).Faults B) :
    (resolve locator >>= f).Faults B := by
  intro v e h
  rw [run_resolve_bind] at h ⊢
  cases hl : locator.resolve with
  | error f =>
      rw [hl] at h
      cases h
  | ok query =>
      rw [hl] at h
      exact hf query hl v e h

theorem Faults.bind (lasting : Lasting B) {x : Client σ α} {f : α → Client σ β}
    (hx : x.Faults B) (hf : ∀ v a, (x.run v).outcome = .ok a → (f a).Faults B) :
    (x >>= f).Faults B := by
  intro v e h
  cases hr : (x.run v).outcome with
  | ok a =>
      rw [run_bind_ok hr] at h ⊢
      exact lasting e _ _ (hf v a hr _ e h)
  | error f =>
      rw [run_bind_error hr] at h ⊢
      cases h
      exact hx v e hr

theorem Faults.map (lasting : Lasting B) {x : Client σ α} {f : α → β} (hx : x.Faults B) :
    (f <$> x).Faults B := hx.bind lasting fun _ _ _ => faults_pure _

/-- **An error of a wait is one of its last check.** -/
theorem faults_waitUntil {C : ProtocolError → List Event → Prop} {check : Client σ (Poll α)}
    (advances : check.Advances) (hc : check.Faults C)
    (last : ∀ e before time u, C e u → B e (before ++ .check time :: u)) (options : WaitOptions) :
    (waitUntil check options).Faults B := by
  intro v e h
  obtain ⟨interval, -, waits⟩ := waits_waitUntil advances options v
  obtain ⟨earlier, w, checks⟩ := waits.exists_checks
  rw [checks.trace, checksTrace, List.flatMap_append, ← checksTrace, ← checksTrace,
    checksTrace_singleton]
  cases hv : Poll.verdict (check.run w).outcome with
  | none =>
      rw [(checks.expired hv).1] at h
      cases h
  | some verdict =>
      rw [checks.decided verdict hv] at h
      rcases Poll.verdict_eq_some_iff.1 hv with ⟨a, -, rfl⟩ | ⟨f, failed, -, rfl⟩
      · cases h
      · cases h
        exact last e _ _ _ (hc w e failed)

end Client

/-! ### Sessions -/

/-- An exchange on behalf of `origin` comes to the error. -/
def Accuses (origin : Origin) (command : String) (e : ProtocolError) (x : Event) : Prop :=
  ∃ context request o, x = .exchange ⟨origin, context⟩ request o ∧ request.name = command ∧
    Reported e command ⟨origin, context⟩ o

/-- The name of the command that an operation on a session sends. -/
def SessionOperation.command : SessionOperation → String
  | status => "status"
  | timeouts => "get timeouts"
  | setTimeouts _ => "set timeouts"
  | navigate _ => "navigate to"
  | url => "get current url"
  | title => "get title"
  | back => "back"
  | forward => "forward"
  | refresh => "refresh"
  | window => "get window handle"
  | windows => "get window handles"
  | newWindow _ => "new window"
  | close => "delete session"

/-- What an error of an operation on a session is of: the exchange of its command, or the end of the
driver, which has errors of its own. -/
inductive SessionOperation.Blames (s : Session σ) (operation : SessionOperation)
    (e : ProtocolError) (t : List Event) : Prop
  /-- The command comes to the error. -/
  | own {x : Event} (mem : x ∈ t) (accuses : Accuses (.session s.id) operation.command e x)
  /-- Halting the driver comes to the error. -/
  | halted {v : World σ} (close : operation = .close)
      (halt : (s.launcher.halt.run v).outcome = .error (.protocol e))

/-- If a session cannot be created because of an error of the remote end, it is one of the exchange
in which the session was asked for. -/
theorem Session.accuses_create {transport : Transport σ} {launcher : Launcher σ}
    {capabilities : Capabilities} {context : CallSite} {v : World σ} {e : ProtocolError}
    (h : ((create transport launcher capabilities context).run v).outcome
      = .error (.protocol e)) :
    ∃ x ∈ ((create transport launcher capabilities context).run v).trace,
      Accuses .driver "new session" e x := by
  have creates := creates_create transport launcher capabilities context v
  cases hc : creation context ((askForSession transport capabilities context).run v).outcome with
  | ok new =>
      rw [creates.created new hc] at h
      cases h
  | error f =>
      rw [creates.failed f hc] at h ⊢
      cases h
      exact ⟨_, List.mem_cons_self, context, _, _, rfl, rfl,
        reported_of_reply (reply_of_readAs hc)⟩

namespace SessionOperation

theorem lasting_blames (s : Session σ) (operation : SessionOperation) :
    Client.Lasting (operation.Blames s) := by
  intro e t u h
  cases h with
  | own mem accuses => exact .own (List.mem_append_right t mem) accuses
  | halted close halt => exact .halted close halt

variable {s : Session σ} {operation : SessionOperation}

theorem faults_submit {request : Request} (name : request.name = operation.command)
    (context : CallSite) : (s.submit request (s.call context)).Faults (operation.Blames s) := by
  intro v e h
  rw [s.run_submit] at h ⊢
  rw [name] at h
  exact .own List.mem_cons_self ⟨context, request, _, rfl, name, reported_of_reply h⟩

theorem faults_ask {command : Command} (name : command.name = operation.command)
    (context : CallSite) (decoder : Json.Decoder α) :
    (s.ask command context decoder).Faults (operation.Blames s) :=
  (faults_submit name context).bind (lasting_blames s operation) fun _ _ _ =>
    Client.faults_decode _ _

theorem faults_tell {command : Command} (name : command.name = operation.command)
    (context : CallSite) : (s.tell command context).Faults (operation.Blames s) :=
  (faults_submit name context).bind (lasting_blames s operation) fun _ _ _ =>
    Client.faults_pure _

theorem faults_close (context : CallSite) :
    (s.close context).Faults (SessionOperation.close.Blames s) := by
  intro v e h
  have closes := s.closes_close context v
  cases halt : (s.launcher.halt.run ((s.askToDelete context).run v).world).outcome with
  | error f =>
      rw [closes.unhalted f halt] at h
      cases h
      exact .halted rfl halt
  | ok u =>
      cases hd : s.deletion context ((s.askToDelete context).run v).outcome with
      | ok u =>
          rw [closes.closed.2 ⟨hd, halt⟩] at h
          cases h
      -- Only here is the session to blame: the driver has been halted, so that the failure to
      -- delete is what is reported.
      | error f =>
          rw [closes.undeleted f hd halt] at h
          cases h
          have reported : reply "delete session" (s.call context)
              ((s.askToDelete context).run v).outcome = .error (.protocol e) := by
            rw [Session.deletion] at hd
            cases hr : reply "delete session" (s.call context)
                ((s.askToDelete context).run v).outcome <;> rw [hr] at hd <;> cases hd
            rfl
          rw [closes.trace]
          exact .own List.mem_cons_self ⟨context, _, _, rfl, rfl, reported_of_reply reported⟩

/-- **An error of an operation on a session is reported for the session and its command.** -/
theorem faults_perform (context : CallSite) (s : Session σ) (operation : SessionOperation) :
    (operation.perform context s).Faults (operation.Blames s) := by
  have lasting := lasting_blames s operation
  cases operation with
  | close => exact (faults_close context).map lasting
  | status =>
      have name : EndpointCommand.status.request.name = SessionOperation.status.command := rfl
      exact ((faults_submit name .unavailable).bind lasting fun _ _ _ =>
        Client.faults_decode Status.decode _).map lasting
  | window | windows | newWindow =>
      exact ((faults_ask rfl context _).bind lasting fun _ _ _ => Client.faults_pure _).map lasting
  | timeouts | url | title => exact (faults_ask rfl .unavailable _).map lasting
  | setTimeouts | navigate | back | forward | refresh =>
      exact (faults_tell rfl context).map lasting

end SessionOperation

/-! ### Windows and elements -/

/-- After whatever happened before, a command comes to the error. -/
def FailsAfter (switch : Request) (origin : Origin) (command : String) (e : ProtocolError)
    (t : List Event) : Prop :=
  ∃ before u, t = before ++ u ∧ FailsIn switch origin command e u

theorem lasting_failsAfter (switch : Request) (origin : Origin) (command : String) :
    Client.Lasting (FailsAfter switch origin command) := by
  rintro e t _ ⟨before, u, rfl, fails⟩
  exact ⟨t ++ before, u, (List.append_assoc t before u).symm, fails⟩

theorem FailsIn.failsAfter {switch : Request} {origin : Origin} {command : String}
    {e : ProtocolError} {t : List Event} (h : FailsIn switch origin command e t) :
    FailsAfter switch origin command e t := ⟨[], t, rfl, h⟩

namespace Window

variable (w : Window σ)

theorem faults_send (command : Command) (call : Call) :
    (w.send command call).Faults (FailsAfter w.switch call.origin command.name) := by
  intro v e h
  have sends := w.sends_send command call v
  rw [h] at sends
  exact sends.failsIn.failsAfter

theorem faults_ask {command : Command} {invoker : String} (name : command.name = invoker)
    (context : CallSite) (decoder : Json.Decoder α) :
    (w.ask command context decoder).Faults
      (FailsAfter w.switch (.window w.session.id w.handle) invoker) := by
  subst name
  exact (w.faults_send command (w.call context)).bind (lasting_failsAfter _ _ _) fun _ _ _ =>
    Client.faults_decode _ _

theorem faults_tell {command : Command} {invoker : String} (name : command.name = invoker)
    (context : CallSite) :
    (w.tell command context).Faults
      (FailsAfter w.switch (.window w.session.id w.handle) invoker) := by
  subst name
  exact (w.faults_send command (w.call context)).bind (lasting_failsAfter _ _ _) fun _ _ _ =>
    Client.faults_pure _

theorem faults_makeCurrent (command : String) (call : Call) :
    (w.makeCurrent call).Faults (FailsAfter w.switch call.origin command) := by
  intro v e h
  obtain ⟨o, trace, outcome⟩ := w.exists_run_makeCurrent call v
  rw [outcome] at h
  cases hr : reply "switch to window" call o with
  | ok value =>
      rw [hr] at h
      cases h
  | error f =>
      rw [hr] at h
      cases h
      rw [trace]
      exact (FailsIn.refused (reported_of_reply hr)).failsAfter

end Window

namespace Element

variable (f : Element σ)

theorem faults_ask {command : Command} {invoker : String} (name : command.name = invoker)
    (context : CallSite) (decoder : Json.Decoder α) :
    (f.ask command context decoder).Faults
      (FailsAfter f.window.switch (.element f.session.id f.window.handle f.id) invoker) := by
  subst name
  exact (f.window.faults_send command (f.call context)).bind (lasting_failsAfter _ _ _)
    fun _ _ _ => Client.faults_decode _ _

theorem faults_tell {command : Command} {invoker : String} (name : command.name = invoker)
    (context : CallSite) :
    (f.tell command context).Faults
      (FailsAfter f.window.switch (.element f.session.id f.window.handle f.id) invoker) := by
  subst name
  exact (f.window.faults_send command (f.call context)).bind (lasting_failsAfter _ _ _)
    fun _ _ _ => Client.faults_pure _

end Element

/-- The name of the command that an operation on a window sends; a wait sends it at every check. -/
def WindowOperation.command : WindowOperation → String
  | focus => "switch to window"
  | close => "close window"
  | rect => "get window rect"
  | setRect _ => "set window rect"
  | maximize => "maximize window"
  | minimize => "minimize window"
  | fullscreen => "fullscreen window"
  | navigate _ => "navigate to"
  | url => "get current url"
  | title => "get title"
  | back => "back"
  | forward => "forward"
  | refresh => "refresh"
  | pageSource => "get page source"
  | execute .. => "execute script"
  | executeAsync .. => "execute async script"
  | readyState => "execute script"
  | findElement _ => "find element"
  | findElements _ => "find elements"
  | activeElement => "get active element"
  | screenshot => "take screenshot"
  | print _ => "print page"
  | cookies => "get all cookies"
  | cookie _ => "get named cookie"
  | addCookie _ => "add cookie"
  | deleteCookie _ => "delete cookie"
  | deleteAllCookies => "delete all cookies"
  | waitForElement .. => "find element"
  | waitForDocument .. => "execute script"

/-- What an error of an operation on a window is of. -/
inductive WindowOperation.Blames (w : Window σ) (operation : WindowOperation) (e : ProtocolError)
    (t : List Event) : Prop
  /-- The command of the operation, which is sent on behalf of the window. -/
  | own (fails : FailsAfter w.switch (.window w.session.id w.handle) operation.command e t)
  /-- The question whether an element is enabled, which a wait asks on behalf of the element that
  the same check has found. -/
  | enabled {locator : Locator} {options : WaitOptions} {query : Locator.Query}
      {context : CallSite} {before find ask : List Event} {time : Nat} {id : ElementId}
      (wait : operation = .waitForElement locator .enabled options)
      (resolved : locator.resolve = .ok query)
      (last : t = before ++ .check time :: (find ++ ask))
      (finds : w.Finds context query find (.ok id))
      (fails : FailsIn w.switch (.element w.session.id w.handle id) "is element enabled" e ask)

/-- The name of the command that an operation on an element sends. -/
def ElementOperation.command : ElementOperation → String
  | findElement _ => "find element from element"
  | findElements _ | children => "find elements from element"
  | click => "element click"
  | clear => "element clear"
  | write _ | writeEnding .. | press _ | pressAll _ => "element send keys"
  | text => "get element text"
  | tagName => "get element tag name"
  | rect => "get element rect"
  | computedLabel => "get computed label"
  | attributeOf _ => "get element attribute"
  | property _ => "get element property"
  | cssValue _ => "get element css value"
  | isSelected => "is element selected"
  | isEnabled => "is element enabled"
  | screenshot => "take element screenshot"

/-- What an error of an operation on an element is of. -/
def ElementOperation.Blames (f : Element σ) (operation : ElementOperation) :
    ProtocolError → List Event → Prop :=
  FailsAfter f.window.switch (.element f.session.id f.window.handle f.id) operation.command

/-- **An error of an operation on an element is reported for the element and its command.** -/
theorem ElementOperation.faults_perform (context : CallSite) (f : Element σ)
    (operation : ElementOperation) :
    (operation.perform context f).Faults (operation.Blames f) := by
  have lasting := lasting_failsAfter f.window.switch
    (.element f.session.id f.window.handle f.id) operation.command
  cases operation with
  | findElement locator | findElements locator =>
      refine .map lasting (Client.faults_resolve_bind fun _ _ => ?_)
      exact (f.faults_ask (by rfl) context _).bind lasting fun _ _ _ => Client.faults_pure _
  | children =>
      exact ((f.faults_ask (by rfl) context _).bind lasting fun _ _ _ =>
        Client.faults_pure _).map lasting
  | screenshot =>
      exact ((f.faults_ask (by rfl) context _).bind lasting fun _ _ _ =>
        Client.faults_bytes _).map lasting
  | click | clear | write | writeEnding | press | pressAll =>
      exact (f.faults_tell (by rfl) context).map lasting
  | text | tagName | rect | computedLabel | attributeOf | property | cssValue | isSelected
  | isEnabled => exact (f.faults_ask (by rfl) .unavailable _).map lasting

/-! ### Waits -/

namespace Window

variable (w : Window σ) (context : CallSite) (query : Locator.Query)

/-- What an error of a check for an element is of: its search or its question. -/
def ProbeFails (condition : ElementCondition) (e : ProtocolError) (t : List Event) : Prop :=
  FailsIn w.switch (.window w.session.id w.handle) "find element" e t ∨
    condition = .enabled ∧ ∃ find ask id, t = find ++ ask ∧
      w.Finds context query find (.ok id) ∧
      FailsIn w.switch (.element w.session.id w.handle id) "is element enabled" e ask

theorem faults_probeElement (condition : ElementCondition) :
    (w.probeElement context query condition).Faults (w.ProbeFails context query condition) := by
  intro v e h
  have probes := w.probes_probeElement context query condition v
  rw [h] at probes
  generalize ((w.probeElement context query condition).run v).trace = t at probes ⊢
  generalize ho : (Except.error (.protocol e) : Except Failure (Poll (Element σ))) = o at probes
  cases probes with
  | unfound find =>
      cases ho
      exact Or.inl find.failsIn
  | unanswered find ask =>
      cases ho
      exact Or.inr ⟨rfl, _, _, _, rfl, find, ask.failsIn⟩
  | present | enabled | disabled => cases ho

/-- What is done when the time is over has no error of the remote end to report. -/
theorem faults_reportTimeout (condition : String) (shown : Option Locator.Query)
    (options : WaitOptions) {B : ProtocolError → List Event → Prop} (lasting : Client.Lasting B) :
    (w.reportTimeout context condition shown options : Client σ α).Faults B :=
  (Client.faults_attempt _).bind lasting fun _ _ _ _ _ h => nomatch h

end Window

namespace WindowOperation

theorem lasting_blames (w : Window σ) (operation : WindowOperation) :
    Client.Lasting (operation.Blames w) := by
  intro e t u h
  cases h with
  | own fails => exact .own (lasting_failsAfter _ _ _ e t u fails)
  | enabled wait resolved last finds fails =>
      subst last
      exact .enabled wait resolved (List.append_assoc ..).symm finds fails

/-- An error of a wait for an element is one of the last check, in which the search and the question
are sent on behalf of different things. -/
theorem faults_waitForElement (w : Window σ) (context : CallSite) (locator : Locator)
    (condition : ElementCondition) (options : WaitOptions) :
    (w.waitForElement context locator condition options).Faults
      ((waitForElement locator condition options).Blames w) := by
  have lasting := lasting_blames w (waitForElement locator condition options)
  refine Client.faults_resolve_bind fun query resolved => ?_
  have wait := Client.faults_waitUntil (w.advances_probeElement context query condition)
    (w.faults_probeElement context query condition)
    (B := (waitForElement locator condition options).Blames w) ?_ options
  · refine wait.bind lasting fun _ found _ => ?_
    cases found with
    | some f => exact Client.faults_pure f
    | none => exact w.faults_reportTimeout context _ _ options lasting
  -- The last check ends the trace, so that its search or its question is what failed last.
  · rintro e before time t (find | ⟨rfl, find, ask, id, rfl, finds, fails⟩)
    · exact .own ⟨before ++ [.check time], t, by rw [List.append_assoc]; rfl, find⟩
    · exact .enabled rfl resolved rfl finds fails

theorem faults_waitForDocument (w : Window σ) (context : CallSite)
    (condition : DocumentCondition) (options : WaitOptions) :
    (w.waitForDocument context condition options).Faults
      (FailsAfter w.switch (.window w.session.id w.handle) "execute script") := by
  have lasting := lasting_failsAfter w.switch (.window w.session.id w.handle) "execute script"
  have check : (w.probeDocument context condition).Faults
      (FailsAfter w.switch (.window w.session.id w.handle) "execute script") :=
    (w.faults_ask (by rfl) context _).bind lasting fun _ _ _ =>
      Client.faults_pure _
  have advances : (w.probeDocument context condition).Advances :=
    (w.advances_ask _ context _).bind fun _ => Client.advances_pure _
  have wait := Client.faults_waitUntil advances check
    (fun e before time u fails => lasting e before _ (lasting e [.check time] u fails)) options
  refine wait.bind lasting fun _ found _ => ?_
  cases found with
  | some u => exact Client.faults_pure ()
  | none => exact w.faults_reportTimeout context _ _ options lasting

/-- **An error of an operation on a window is reported for the window and its command**, but for the
errors of the question whether an element is enabled. -/
theorem faults_perform {context : CallSite} {elements : List (Element σ)} {w : Window σ}
    {operation : WindowOperation} {x : Client σ (Answer σ)}
    (h : operation.perform context elements w = some x) : x.Faults (operation.Blames w) := by
  have lasting := lasting_failsAfter w.switch (.window w.session.id w.handle) operation.command
  have own (hx : x.Faults (FailsAfter w.switch (.window w.session.id w.handle)
      operation.command)) : x.Faults (operation.Blames w) := fun v e he => .own (hx v e he)
  cases operation with
  | waitForElement locator condition options =>
      cases h
      exact (faults_waitForElement w context locator condition options).map (lasting_blames w _)
  | waitForDocument condition options =>
      cases h
      exact own ((faults_waitForDocument w context condition options).map lasting)
  | focus =>
      cases h
      exact own ((w.faults_makeCurrent _ (w.call context)).map lasting)
  | findElement locator | findElements locator =>
      cases h
      refine own (.map lasting (Client.faults_resolve_bind fun _ _ => ?_))
      exact (w.faults_ask (by rfl) context _).bind lasting fun _ _ _ => Client.faults_pure _
  | execute | executeAsync =>
      obtain ⟨script, -, rfl⟩ := Option.map_eq_some_iff.1 h
      exact own ((w.faults_ask (by rfl) context _).map lasting)
  | screenshot | print =>
      cases h
      exact own (((w.faults_ask (by rfl) context _).bind lasting fun _ _ _ =>
        Client.faults_bytes _).map lasting)
  | activeElement | close =>
      cases h
      exact own (((w.faults_ask (by rfl) context _).bind lasting fun _ _ _ =>
        Client.faults_pure _).map lasting)
  | navigate | back | forward | refresh | addCookie | deleteCookie | deleteAllCookies =>
      cases h
      exact own ((w.faults_tell (by rfl) context).map lasting)
  | rect | setRect | maximize | minimize | fullscreen | url | title | pageSource | readyState
  | cookies | cookie =>
      cases h
      exact own ((w.faults_ask (by rfl) _ _).map lasting)

end WindowOperation

/-! ### Runs -/

/-- What an error of an operation in a journal is of. -/
def Journal.Blames (j : Journal σ) (s : Session σ) (e : ProtocolError) (t : List Event) :
    Operation → Prop
  | .session operation => operation.Blames s e t
  | .window number operation =>
    ∃ w, j.conversation.windows[number]? = some w ∧ w.session = s ∧ operation.Blames w e t
  | .element number operation =>
    ∃ f, j.conversation.elements[number]? = some f ∧ f.window.session = s ∧
      j.roots[number]? = some (some f.window.handle) ∧ operation.Blames f e t

theorem Journal.Faithful.faults_perform {s : Session σ} {j : Journal σ} (hj : j.Faithful s)
    {context : CallSite} {operation : Operation} {x : Client σ (Answer σ)}
    (hx : j.conversation.perform context operation = some x) :
    x.Faults fun e t => j.Blames s e t operation := by
  intro v e h
  cases operation with
  | session operation =>
      cases hx
      have blames := operation.faults_perform context j.conversation.session v e h
      rw [hj.session] at blames ⊢
      exact blames
  | window number operation =>
      obtain ⟨w, hw, performed⟩ := Option.bind_eq_some_iff.1 hx
      exact ⟨w, hw, hj.windows w (List.mem_of_getElem? hw),
        WindowOperation.faults_perform performed v e h⟩
  | element number operation =>
      obtain ⟨f, hf, rfl⟩ := Option.map_eq_some_iff.1 hx
      have root : j.roots[number]? = some (some f.window.handle) := by
        rw [hj.roots, List.getElem?_map, hf]
        rfl
      exact ⟨f, hf, hj.elements f (List.mem_of_getElem? hf), root,
        operation.faults_perform context f v e h⟩

/-- **An error is reported for what the operation is done to, and for the command whose reply it
is**, when a session is created and in everything that is done in it, whatever has been done before
and whatever the remote end replies. -/
theorem Journal.blames_run :
    (∀ (transport : Transport σ) (launcher : Launcher σ) (capabilities : Capabilities)
        (context : CallSite) (v : World σ) (e : ProtocolError),
      ((Session.create transport launcher capabilities context).run v).outcome =
          .error (.protocol e) →
        ∃ x ∈ ((Session.create transport launcher capabilities context).run v).trace,
          Accuses .driver "new session" e x)
    ∧ ∀ (s : Session σ) (w : World σ) (steps : List (CallSite × Operation)) (context : CallSite)
        (operation : Operation) (x : Client σ (Answer σ)) (e : ProtocolError),
      ((start s w).run steps).conversation.perform context operation = some x →
      (x.run ((start s w).run steps).world).outcome = .error (.protocol e) →
        ((start s w).run steps).Blames s e (x.run ((start s w).run steps).world).trace
          operation := by
  refine ⟨fun _ _ _ _ _ _ h => Session.accuses_create h, ?_⟩
  intro s w steps context operation x e hx h
  exact ((Faithful.start s w).run steps).faults_perform hx _ e h

/-! ### A remote end that is too slow -/

namespace Session.Slow

/-- The reply `{"value":"w1"}`, which names a window. -/
def named : Response :=
  ⟨200, [123, 34, 118, 97, 108, 117, 101, 34, 58, 34, 119, 49, 34, 125]⟩

/-- The reply `{"value":{"error":"timeout"}}`: something took too long. -/
def late : Response :=
  ⟨404, [123, 34, 118, 97, 108, 117, 101, 34, 58, 123, 34, 101, 114, 114, 111, 114, 34, 58, 34, 116,
    105, 109, 101, 111, 117, 116, 34, 125, 125]⟩

/-- A remote end whose replies are known beforehand. -/
def transport : Transport (List Response) :=
  fun _ replies => (⟨.ok (replies.headD late), 0⟩, replies.tail)

/-- The world before the replies. -/
def before (replies : List Response) : World (List Response) := ⟨replies, 0, 0, []⟩

/-- A driver that needs no halting. -/
def launcher : Launcher (List Response) :=
  .attached ⟨"http".toList, .at { host := .domain "localhost".toList } [[]], none, none⟩

/-- A session with the remote end. -/
def session : Session (List Response) := ⟨⟨⟨"s1"⟩, .unavailable⟩, transport, launcher⟩

/-- The window that is named. -/
def window : Window (List Response) := ⟨⟨⟨"w1"⟩, .unavailable⟩, none, session⟩

/-- The journal after the window has been named. -/
def journal : Journal (List Response) :=
  (Journal.start session (before [named, late])).run [(.unavailable, .session .window)]

/-- The error of a command that took too long. -/
def error (origin : Origin) (command : String) : ProtocolError :=
  ⟨.timeout, 404, "", none, none, .unavailable, origin, command⟩

theorem windows_journal : journal.conversation.windows[0]? = some window := rfl

theorem world_journal : journal.world = before [late] := rfl

theorem outcome_create :
    ((create transport launcher {} .unavailable).run (before [late])).outcome =
      .error (.protocol (error .driver "new session")) := rfl

/-- The title of the window is asked for. -/
def askTitle : Client (List Response) (Answer (List Response)) := Answer.text <$> window.title

theorem outcome_title :
    (askTitle.run (before [late])).outcome =
      .error (.protocol (error (.window ⟨"s1"⟩ ⟨"w1"⟩) "switch to window")) := rfl

/-- An operation on a window that fails in its switch is reported for the window and the switch. -/
theorem blames_run_late :
    (∃ x ∈ ((create transport launcher {} .unavailable).run (before [late])).trace,
      Accuses .driver "new session" (error .driver "new session") x)
    ∧ journal.Blames session (error (.window ⟨"s1"⟩ ⟨"w1"⟩) "switch to window")
        (askTitle.run journal.world).trace
        (.window 0 .title) := by
  refine ⟨Journal.blames_run.1 transport launcher {} .unavailable (before [late]) _
    outcome_create, ?_⟩
  have perform : journal.conversation.perform .unavailable (.window 0 .title) =
      some askTitle := by
    rw [Conversation.perform, windows_journal]
    rfl
  have outcome := outcome_title
  rw [← world_journal] at outcome
  unfold journal at perform outcome ⊢
  exact Journal.blames_run.2 session (before [named, late]) [(.unavailable, .session .window)]
    .unavailable (.window 0 .title) _ _ perform outcome

end Session.Slow

end WebDriverClient
