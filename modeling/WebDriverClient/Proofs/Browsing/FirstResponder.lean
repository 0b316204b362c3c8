/-
**The first responder.**

A journal is a conversation that is written down.  Beside what the conversation keeps it has the log
of the requests, each with the window on whose behalf it was sent, and for each element the window
in which the finds that led to it started.  Both are told from the operations alone and not read off
the elements, so the journal shows whether an element still acts in the window it comes from.

Main definitions:

* `Sent` — a request, what came of it, and the window on whose behalf it was sent;
* `Journal` — a conversation and its log;
* `FirstResponder` — the logs in which every window is made current before it is asked for anything;
* `Journal.Faithful` — what operations keep of a journal.

Main results:

* `Journal.exchanges_run` — the log is that of the conversation;
* `Journal.Faithful.step`, `Journal.Faithful.run` — operations keep a journal faithful;
* `Journal.Faithful.answered_run` — what is written down is what the remote end answers;
* `Journal.firstResponder_run` — **every request of a window or an element follows a switch to the
  window that was a success**.
-/

import WebDriverClient.Proofs.Browsing.Answered

set_option autoImplicit false

namespace WebDriverClient

variable {σ : Type}

/-! ### Logs -/

/-- A request that was sent. -/
structure Sent where
  /-- The window on whose behalf it was sent. -/
  owner : Option WindowHandle
  request : Request
  outcome : Except Failure Response

/-- What was sent and what came of it, in order. -/
def exchanges (t : List Event) : List (Request × Except Failure Response) :=
  t.filterMap fun
    | .exchange _ request outcome => some (request, outcome)
    | _ => none

/-- The log of what happens on behalf of a window. -/
def sentFor (owner : Option WindowHandle) (t : List Event) : List Sent :=
  (exchanges t).map fun x => ⟨owner, x.1, x.2⟩

/-- A request for a window, but for the switches to it, comes right after a switch to it that was a
success.  After a switch that was none, a window can only be switched to. -/
structure FirstResponder (session : SessionId) (log : List Sent) : Prop where
  /-- What comes right before a request. -/
  led : ∀ {before after : List Sent} {x : Sent} {h : WindowHandle},
    log = before ++ x :: after → x.owner = some h → x.request ≠ switchRequest session h →
      ∃ earlier y, before = earlier ++ [y] ∧ y.owner = some h ∧
        y.request = switchRequest session h ∧ Succeeded y.outcome
  /-- What comes right after a switch that was no success. -/
  refused : ∀ {before after : List Sent} {x y : Sent} {g h : WindowHandle},
    log = before ++ y :: x :: after → y.owner = some g → y.request = switchRequest session g →
      ¬ Succeeded y.outcome → x.owner = some h → x.request = switchRequest session h

namespace FirstResponder

variable {session : SessionId} {log : List Sent}

/-- It is enough to know what comes right before a request. -/
theorem of_led
    (hl : ∀ (before after : List Sent) (x : Sent) (h : WindowHandle),
      log = before ++ x :: after → x.owner = some h → x.request ≠ switchRequest session h →
        ∃ earlier y, before = earlier ++ [y] ∧ y.owner = some h ∧
          y.request = switchRequest session h ∧ Succeeded y.outcome) :
    FirstResponder session log := by
  refine ⟨fun hs ho hr => hl _ _ _ _ hs ho hr, ?_⟩
  intro before after x y g h hs _ _ refused owner
  by_cases other : x.request = switchRequest session h
  · exact other
  · -- What comes right before the request is the switch that was none.
    have split : log = (before ++ [y]) ++ x :: after := by rw [hs, List.append_assoc]; rfl
    obtain ⟨earlier, z, last, -, -, success⟩ := hl _ _ _ _ split owner other
    obtain ⟨-, rfl⟩ := List.append_singleton_inj.1 last
    exact absurd success refused

theorem nil : FirstResponder session [] := by
  refine of_led fun before after x h hs => ?_
  cases before <;> cases hs

/-- One log after the other. -/
theorem append {log' : List Sent} (hl : FirstResponder session log)
    (hl' : FirstResponder session log') : FirstResponder session (log ++ log') := by
  refine of_led fun before after x h hs owner other => ?_
  -- The request is in the second log, or the first reaches as far as it and perhaps beyond.
  rcases List.append_eq_append_iff.1 hs with ⟨middle, rfl, hs'⟩ | ⟨middle, rfl, hs'⟩
  · obtain ⟨earlier, y, rfl, hy⟩ := hl'.led hs' owner other
    exact ⟨log ++ earlier, y, (List.append_assoc ..).symm, hy⟩
  · cases middle with
    | nil =>
        have first : log' = [] ++ x :: after := hs'.symm
        obtain ⟨earlier, y, empty, -⟩ := hl'.led first owner other
        cases earlier <;> cases empty
    | cons z middle =>
        cases hs'
        exact hl.led rfl owner other

/-- What happens on behalf of no window. -/
theorem sentFor_none (t : List Event) : FirstResponder session (sentFor none t) := by
  refine of_led fun before after x h hs owner => ?_
  have member : x ∈ sentFor none t := by rw [hs]; simp
  obtain ⟨_, -, rfl⟩ := List.mem_map.1 member
  cases owner

/-- A switch on its own. -/
theorem switch {y : Sent} (hy : ∀ h, y.owner = some h → y.request = switchRequest session h) :
    FirstResponder session [y] := by
  refine of_led fun before after x h hs owner other => ?_
  obtain ⟨rfl, first⟩ | ⟨before, -, none⟩ := List.cons_eq_append_iff.1 hs
  · cases first
    exact absurd (hy h owner) other
  · cases before <;> cases none

/-- A request and the switch that leads it. -/
theorem request {x y : Sent} {handle : WindowHandle} (hy : y.owner = some handle)
    (switch : y.request = switchRequest session handle) (success : Succeeded y.outcome)
    (hx : x.owner = some handle) : FirstResponder session [y, x] := by
  refine of_led fun before after z h hs owner other => ?_
  obtain ⟨rfl, first⟩ | ⟨before, rfl, second⟩ := List.cons_eq_append_iff.1 hs
  · cases first
    rw [hy] at owner
    cases owner
    exact absurd switch other
  · obtain ⟨rfl, second⟩ | ⟨before, rfl, none⟩ := List.cons_eq_append_iff.1 second
    · cases second
      rw [hx] at owner
      cases owner
      exact ⟨[], y, rfl, hy, switch, success⟩
    · cases before <;> cases none

/-- What the switches to a window lead. -/
theorem sentFor_led {handle : WindowHandle} {t : List Event}
    (ht : Led (switchRequest session handle) t) :
    FirstResponder session (sentFor (some handle) t) := by
  induction ht with
  | nil => exact nil
  | check _ ih => exact ih
  | @switch c o t _ ih =>
      have first : FirstResponder session [⟨some handle, switchRequest session handle, o⟩] :=
        switch fun h owner => by cases owner; rfl
      exact first.append ih
  | @request c d r o p t success _ ih =>
      have first : FirstResponder session
          [⟨some handle, switchRequest session handle, o⟩, ⟨some handle, r, p⟩] :=
        request rfl rfl success rfl
      exact first.append ih

end FirstResponder

/-! ### Journals -/

/-- A conversation and its log. -/
structure Journal (σ : Type) where
  conversation : Conversation σ
  world : World σ
  /-- For each element the window in which the finds that led to it started. -/
  roots : List (Option WindowHandle) := []
  log : List Sent := []

namespace Journal

/-- The journal of a conversation in which nothing has been done. -/
def start (s : Session σ) (w : World σ) : Journal σ :=
  { conversation := { session := s }, world := w }

/-- The window on whose behalf an operation sends its requests. -/
def owner? (j : Journal σ) : Operation → Option WindowHandle
  | .session _ => none
  | .window number _ => j.conversation.windows[number]?.map Window.handle
  | .element number _ => j.roots[number]?.join

/-- Does an operation and writes it down.  The finds that led to the elements that it delivers
started where it belongs. -/
def step (j : Journal σ) (context : CallSite) (operation : Operation) : Journal σ :=
  let (r, c) := j.conversation.step context operation j.world
  let found := c.elements.drop j.conversation.elements.length
  { conversation := c
    world := Conversation.worldAfter j.world r
    roots := j.roots ++ found.map fun _ => j.owner? operation
    log := j.log ++ sentFor (j.owner? operation) (r.elim [] Run.trace) }

/-- Does operations one after the other and writes them down. -/
def run (j : Journal σ) : List (CallSite × Operation) → Journal σ
  | [] => j
  | (context, operation) :: rest => (j.step context operation).run rest

section

variable {j : Journal σ} {context : CallSite} {operation : Operation} {x : Client σ (Answer σ)}

/-- An operation on nothing leaves no mark. -/
theorem step_of_none (hx : j.conversation.perform context operation = none) :
    j.step context operation = j := by
  have same : j.conversation.step context operation j.world = (none, j.conversation) := by
    rw [Conversation.step, hx]
  simp [step, same, Conversation.worldAfter, sentFor, exchanges]

/-- An operation that fails leaves its requests. -/
theorem step_of_error (hx : j.conversation.perform context operation = some x) {e : Failure}
    (he : (x.run j.world).outcome = .error e) :
    j.step context operation =
      { j with
        world := (x.run j.world).world
        log := j.log ++ sentFor (j.owner? operation) (x.run j.world).trace } := by
  have same : j.conversation.step context operation j.world =
      (some (x.run j.world), j.conversation) := by
    rw [Conversation.step, hx]
    simp only [he]
  simp [step, same, Conversation.worldAfter]

/-- An operation that succeeds leaves its requests and what it delivers. -/
theorem step_of_ok (hx : j.conversation.perform context operation = some x) {a : Answer σ}
    (ha : (x.run j.world).outcome = .ok a) :
    j.step context operation =
      { conversation := j.conversation.keep a
        world := (x.run j.world).world
        roots := j.roots ++ a.newElements.map fun _ => j.owner? operation
        log := j.log ++ sentFor (j.owner? operation) (x.run j.world).trace } := by
  have same : j.conversation.step context operation j.world =
      (some (x.run j.world), j.conversation.keep a) := by
    rw [Conversation.step, hx]
    simp only [ha]
  simp [step, same, Conversation.worldAfter, Conversation.keep]

end

theorem exchanges_sentFor (owner : Option WindowHandle) (t : List Event) :
    (sentFor owner t).map (fun x => (x.request, x.outcome)) = exchanges t := by
  rw [sentFor, List.map_map]
  exact List.map_id _

/-- **The log is that of the conversation**: a journal sends what the operations send without it. -/
theorem exchanges_run (context : CallSite) (operations : List Operation) (j : Journal σ) :
    (j.run (operations.map (Prod.mk context))).log.map (fun x => (x.request, x.outcome)) =
      j.log.map (fun x => (x.request, x.outcome)) ++
        exchanges (Conversation.trace (j.conversation.converse context operations j.world)) := by
  induction operations generalizing j with
  | nil => exact (List.append_nil _).symm
  | cons operation rest ih =>
      rw [List.map_cons, run, ih]
      simp only [step, Conversation.converse, Conversation.trace, List.map_append,
        exchanges_sentFor, List.flatMap_cons, List.append_assoc]
      simp only [exchanges, List.filterMap_append]

/-! ### Faithful journals -/

/-- Everything is of the session, the elements are of the windows in which the finds that led to
them started, and the log is as it should be. -/
structure Faithful (s : Session σ) (j : Journal σ) : Prop where
  session : j.conversation.session = s
  windows : ∀ w ∈ j.conversation.windows, w.session = s
  elements : ∀ e ∈ j.conversation.elements, e.window.session = s
  /-- The elements are elements of the windows in which the finds that led to them started. -/
  roots : j.roots = j.conversation.elements.map fun e => some e.window.handle
  /-- Every window has been made current before it was asked for anything. -/
  log : FirstResponder s.id j.log

/-- The answer delivers windows of the session, and elements of a window of it. -/
def Delivered (s : Session σ) (owner : Option WindowHandle) (a : Answer σ) : Prop :=
  (∀ w ∈ a.newWindows, w.session = s) ∧
    ∀ e ∈ a.newElements, e.window.session = s ∧ owner = some e.window.handle

theorem delivered_of_within {s : Session σ} {w : Window σ} {a : Answer σ} (hw : w.session = s)
    (ha : a.Within w) : Delivered s (some w.handle) a := by
  obtain ⟨windows, elements⟩ := ha
  refine ⟨by simp [windows], fun e he => ?_⟩
  rw [elements e he]
  exact ⟨hw, rfl⟩

namespace Faithful

variable {s : Session σ} {j : Journal σ}

theorem start (s : Session σ) (w : World σ) : (start s w).Faithful s where
  session := rfl
  windows := fun _ h => by cases h
  elements := fun _ h => by cases h
  roots := rfl
  log := .nil

/-- What is led by a window of the session is led by the window on whose behalf it is done. -/
theorem ensures_of_led {w : Window σ} {x : Client σ (Answer σ)} (hw : w.session = s)
    (hx : x.Ensures (Led w.switch) (Client.Delivers (Answer.Within w))) :
    x.Ensures (fun t => FirstResponder s.id (sentFor (some w.handle) t))
      (Client.Delivers (Delivered s (some w.handle))) := by
  intro world
  obtain ⟨trace, outcome⟩ := hx world
  subst hw
  exact ⟨.sentFor_led trace, fun a ha => delivered_of_within rfl (outcome a ha)⟩

/-- **What an operation of a faithful journal does**: its requests come after switches to its own
window, and the elements that it delivers are elements of that window. -/
theorem ensures_perform (hj : j.Faithful s) {context : CallSite} {operation : Operation}
    {x : Client σ (Answer σ)} (hx : j.conversation.perform context operation = some x) :
    x.Ensures (fun t => FirstResponder s.id (sentFor (j.owner? operation) t))
      (Client.Delivers (Delivered s (j.owner? operation))) := by
  cases operation with
  | session operation =>
      cases hx
      intro world
      refine ⟨.sentFor_none _, fun a ha => ?_⟩
      obtain ⟨elements, windows⟩ :=
        (operation.delivers_perform context j.conversation.session world).2 a ha
      rw [hj.session] at windows
      exact ⟨windows, by simp [elements]⟩
  | window number operation =>
      obtain ⟨w, hw, performed⟩ := Option.bind_eq_some_iff.1 hx
      have owner : j.owner? (.window number operation) = some w.handle := by
        rw [owner?, hw, Option.map_some]
      rw [owner]
      have session : w.session = s := hj.windows w (List.mem_of_getElem? hw)
      exact ensures_of_led session (operation.led_perform performed)
  | element number operation =>
      obtain ⟨e, he, rfl⟩ := Option.map_eq_some_iff.1 hx
      have owner : j.owner? (.element number operation) = some e.window.handle := by
        rw [owner?, hj.roots, List.getElem?_map, he]
        rfl
      rw [owner]
      have session : e.window.session = s := hj.elements e (List.mem_of_getElem? he)
      exact ensures_of_led session (operation.led_perform context e)

/-- **A step keeps a journal faithful.** -/
theorem step (hj : j.Faithful s) (context : CallSite) (operation : Operation) :
    (j.step context operation).Faithful s := by
  cases hx : j.conversation.perform context operation with
  | none => rwa [step_of_none hx]
  | some x =>
      obtain ⟨log, delivered⟩ := hj.ensures_perform hx j.world
      cases outcome : (x.run j.world).outcome with
      | error e =>
          rw [step_of_error hx outcome]
          exact ⟨hj.session, hj.windows, hj.elements, hj.roots, hj.log.append log⟩
      | ok a =>
          obtain ⟨windows, elements⟩ := delivered a outcome
          rw [step_of_ok hx outcome]
          refine ⟨hj.session, ?_, ?_, ?_, hj.log.append log⟩
          · intro w hw
            exact (List.mem_append.1 hw).elim (hj.windows w) (windows w)
          · intro e he
            exact (List.mem_append.1 he).elim (hj.elements e) fun new => (elements e new).1
          · -- What is new comes from where the operation belongs.
            have roots : a.newElements.map (fun _ => j.owner? operation) =
                a.newElements.map fun e => some e.window.handle :=
              List.map_congr_left fun e he => (elements e he).2
            rw [roots, hj.roots, ← List.map_append]
            rfl

/-- **A run keeps a journal faithful.** -/
theorem run (hj : j.Faithful s) (steps : List (CallSite × Operation)) :
    (j.run steps).Faithful s := by
  induction steps generalizing j with
  | nil => exact hj
  | cons first rest ih => exact ih (hj.step first.1 first.2)

end Faithful

/-! ### What the remote end answers -/

namespace Faithful

variable {s : Session σ} {j : Journal σ}

/-- Whatever is done in a faithful journal is done in its session. -/
theorem isAnswered_perform (hj : j.Faithful s) {context : CallSite} {operation : Operation}
    {x : Client σ (Answer σ)} (hx : j.conversation.perform context operation = some x) :
    x.IsAnswered s := by
  cases operation with
  | session operation =>
      cases hx
      rw [hj.session]
      exact operation.isAnswered_perform context s
  | window number operation =>
      obtain ⟨w, hw, performed⟩ := Option.bind_eq_some_iff.1 hx
      obtain rfl : w.session = s := hj.windows w (List.mem_of_getElem? hw)
      exact operation.isAnswered_perform performed
  | element number operation =>
      obtain ⟨e, he, rfl⟩ := Option.map_eq_some_iff.1 hx
      obtain rfl : e.window.session = s := hj.elements e (List.mem_of_getElem? he)
      exact operation.isAnswered_perform context e

/-- What a step writes down is what the remote end answers. -/
theorem answered_step (hj : j.Faithful s) (context : CallSite) (operation : Operation) :
    ∃ t, (j.step context operation).log.map (fun x => (x.request, x.outcome)) =
        j.log.map (fun x => (x.request, x.outcome)) ++ exchanges t ∧
      Answered s j.world.remote t (j.step context operation).world.remote := by
  cases hx : j.conversation.perform context operation with
  | none =>
      rw [step_of_none hx]
      exact ⟨[], (List.append_nil _).symm, .nil⟩
  | some x =>
      have answered := hj.isAnswered_perform hx j.world
      cases outcome : (x.run j.world).outcome with
      | error e =>
          rw [step_of_error hx outcome, List.map_append, exchanges_sentFor]
          exact ⟨_, rfl, answered⟩
      | ok a =>
          rw [step_of_ok hx outcome, List.map_append, exchanges_sentFor]
          exact ⟨_, rfl, answered⟩

/-- What a run writes down is what the remote end answers. -/
theorem answered_run (hj : j.Faithful s) (steps : List (CallSite × Operation)) :
    ∃ t, (j.run steps).log.map (fun x => (x.request, x.outcome)) =
        j.log.map (fun x => (x.request, x.outcome)) ++ exchanges t ∧
      Answered s j.world.remote t (j.run steps).world.remote := by
  induction steps generalizing j with
  | nil => exact ⟨[], (List.append_nil _).symm, .nil⟩
  | cons first rest ih =>
      obtain ⟨t, log, answered⟩ := hj.answered_step first.1 first.2
      obtain ⟨u, log', answered'⟩ := ih (hj.step first.1 first.2)
      refine ⟨t ++ u, ?_, answered.append answered'⟩
      have parts : exchanges (t ++ u) = exchanges t ++ exchanges u := List.filterMap_append
      rw [Journal.run, log', log, parts, List.append_assoc]

end Faithful

/-- **Every request of a window or an element follows a switch to the window that was a success**,
whatever is done in a session, in whichever order, and whatever the remote end replies.  What came
of the requests is what it answers to them. -/
theorem firstResponder_run (s : Session σ) (w : World σ) (steps : List (CallSite × Operation)) :
    FirstResponder s.id ((start s w).run steps).log ∧
    ∃ t, ((start s w).run steps).log.map (fun x => (x.request, x.outcome)) = exchanges t ∧
      Answered s w.remote t ((start s w).run steps).world.remote :=
  ⟨((Faithful.start s w).run steps).log, (Faithful.start s w).answered_run steps⟩

end Journal

end WebDriverClient
