/-
**What comes of a wait for an element.**

Every check of the wait looks for the element and, if that is what is waited for, asks whether it is
enabled.  The wait goes on only as long as no element is there or the element is not enabled; what
else a check comes to is what the wait comes to.  When the time is over, the source of the page is
asked for, and the report has it if it came.

Main definitions:

* `Window.Probes` — the exchanges of a check and what they come to;
* `Window.ElementWait` — what comes of a wait for an element.

Main results:

* `Window.probes_probeElement` — a check comes to what its exchanges say;
* `Window.run_waitForElement` — **a wait for an element comes to what its last check says**, or to
  the report that the time is over.
-/

import WebDriverClient.Browsing.Condition
import WebDriverClient.Proofs.Browsing.Answered
import WebDriverClient.Proofs.Browsing.Replies

set_option autoImplicit false

namespace WebDriverClient.Window

variable {σ : Type}

/-! ### Checks -/

section

variable (w : Window σ) (context : CallSite) (query : Locator.Query)

/-- The search of a check: the query is sent on behalf of the window. -/
def Finds (t : List Event) (found : Except Failure ElementId) : Prop :=
  w.Asks (.findElement query) (w.call context) ElementId.decodeReference t found

/-- The question of a check: whether the element is enabled is asked on behalf of the element. -/
def Enquires (id : ElementId) (t : List Event) (enabled : Except Failure Bool) : Prop :=
  w.Asks (.isElementEnabled id) ((w.elementOf context id).call context) Json.Decoder.boolean t
    enabled

/-- The exchanges after a search by which an element meets a condition: none if it must only be
there, and the question with the answer that it is enabled if it must be enabled. -/
def Meets (id : ElementId) : ElementCondition → List Event → Prop
  | .presence, t => t = []
  | .enabled, t => w.Enquires context id t (.ok true)

/-- The exchanges of a check and what they come to. -/
inductive Probes :
    ElementCondition → List Event → Except Failure (Poll (Element σ)) → Prop
  | unfound {condition : ElementCondition} {t : List Event} {e : Failure}
      (find : w.Finds context query t (.error e)) : Probes condition t (.error e)
  | present {t : List Event} {id : ElementId} (find : w.Finds context query t (.ok id)) :
      Probes .presence t (.ok (.ready (w.elementOf context id)))
  | unanswered {t u : List Event} {id : ElementId} {e : Failure}
      (find : w.Finds context query t (.ok id)) (ask : w.Enquires context id u (.error e)) :
      Probes .enabled (t ++ u) (.error e)
  | enabled {t u : List Event} {id : ElementId} (find : w.Finds context query t (.ok id))
      (ask : w.Enquires context id u (.ok true)) :
      Probes .enabled (t ++ u) (.ok (.ready (w.elementOf context id)))
  | disabled {t u : List Event} {id : ElementId} (find : w.Finds context query t (.ok id))
      (ask : w.Enquires context id u (.ok false)) : Probes .enabled (t ++ u) (.ok .pending)

variable {w context query}

/-- A check is ready only with an element that it has found, and that is enabled if it must be. -/
theorem Probes.of_ready {condition : ElementCondition} {t : List Event} {e : Element σ}
    (h : w.Probes context query condition t (.ok (.ready e))) :
    ∃ id u v, e = w.elementOf context id ∧ t = u ++ v ∧ w.Finds context query u (.ok id) ∧
      w.Meets context id condition v := by
  cases h with
  | present find => exact ⟨_, t, [], rfl, (List.append_nil t).symm, find, rfl⟩
  | enabled find ask => exact ⟨_, _, _, rfl, rfl, find, ask⟩

variable (w context query)

theorem run_findByQuery (v : World σ) :
    (w.findByQuery context query).run v =
      { (w.ask (.findElement query) context ElementId.decodeReference).run v with
        outcome :=
          ((w.ask (.findElement query) context ElementId.decodeReference).run v).outcome.map
            (w.elementOf context) } :=
  Client.run_bind_pure _ (w.elementOf context) v

/-- Asking whether an element is enabled decides a check, if there is an answer. -/
theorem run_isEnabledFor_bind (e : Element σ) (u : World σ) :
    (e.isEnabledFor context >>= fun b =>
        if b then pure (Poll.ready e) else pure Poll.pending).run u =
      { (e.isEnabledFor context).run u with
        outcome := ((e.isEnabledFor context).run u).outcome.map fun b =>
          if b then Poll.ready e else Poll.pending } := by
  have choice : (fun b : Bool => (if b then pure (Poll.ready e) else pure Poll.pending :
      Client σ (Poll (Element σ)))) = fun b => pure (if b then Poll.ready e else Poll.pending) := by
    funext b
    cases b <;> rfl
  rw [choice, Client.run_bind_pure]

/-- **A check comes to what its exchanges say.** -/
theorem probes_probeElement (condition : ElementCondition) (v : World σ) :
    w.Probes context query condition ((w.probeElement context query condition).run v).trace
      ((w.probeElement context query condition).run v).outcome := by
  -- The search comes first; only an element that has been found is asked about.
  have find := w.asks_ask (.findElement query) context ElementId.decodeReference v
  have found := w.run_findByQuery context query v
  cases hr : ((w.ask (.findElement query) context ElementId.decodeReference).run v).outcome with
  | error e =>
      rw [hr] at find found
      have outcome : ((w.findByQuery context query).run v).outcome = .error e := by rw [found]; rfl
      rw [probeElement, Client.run_bind_error outcome, found]
      exact .unfound find
  | ok id =>
      rw [hr] at find found
      have outcome : ((w.findByQuery context query).run v).outcome =
          .ok (w.elementOf context id) := by rw [found]; rfl
      rw [probeElement, Client.run_bind_ok outcome, found]
      cases condition with
      | presence =>
          simp only
          exact (List.append_nil _).symm ▸ .present find
      | enabled =>
          have ask := (w.elementOf context id).asks_ask (.isElementEnabled id) context
            Json.Decoder.boolean ((w.findByQuery context query).run v).world
          have answered := run_isEnabledFor_bind context (w.elementOf context id)
            ((w.findByQuery context query).run v).world
          rw [found] at ask answered
          simp only at ask answered ⊢
          rw [answered]
          cases ha : (((w.elementOf context id).isEnabledFor context).run
              ((w.ask (.findElement query) context ElementId.decodeReference).run v).world).outcome
          with
          | error f => exact .unanswered find (ha ▸ ask)
          | ok b =>
              cases b with
              | true => exact .enabled find (ha ▸ ask)
              | false => exact .disabled find (ha ▸ ask)

theorem advances_probeElement (condition : ElementCondition) :
    (w.probeElement context query condition).Advances := by
  have find : (w.findByQuery context query).Advances :=
    (w.advances_ask _ context _).bind fun _ => Client.advances_pure _
  refine find.bind fun e => ?_
  cases condition with
  | presence => exact Client.advances_pure _
  | enabled =>
      refine (e.advances_ask _ context _).bind fun b => ?_
      cases b with
      | true => exact Client.advances_pure _
      | false => exact Client.advances_pure _

end

/-! ### Waits -/

/-- What comes of a wait for an element that a query selects.  Checks are made in some worlds, the
last of them in `last`. -/
structure ElementWait (w : Window σ) (context : CallSite) (query : Locator.Query)
    (condition : ElementCondition) (options : WaitOptions) (start : World σ)
    (earlier : List (World σ)) (last : World σ) (r : Run σ (Element σ)) : Prop where
  /-- The first check is made at once. -/
  first : (earlier ++ [last]).head? = some start
  /-- Between two checks there is only a pause, as long as the options say if the wait ends then. -/
  next : ∃ interval, options.Paces (w.probeElement context query condition) start interval ∧
    (earlier ++ [last]).IsChain (Follows (w.probeElement context query condition) interval
      (start.clock + options.timeout.nanoseconds))
  /-- The checks search and ask as the condition wants it. -/
  probes : ∀ v ∈ earlier ++ [last], w.Probes context query condition
    ((w.probeElement context query condition).run v).trace
    ((w.probeElement context query condition).run v).outcome
  /-- The checks before the last have found no element, or one that is not as it should be. -/
  undecided : ∀ v ∈ earlier,
    Poll.Undecided ((w.probeElement context query condition).run v).outcome
  /-- What the last check has found is the result. -/
  ready : ∀ e, ((w.probeElement context query condition).run last).outcome = .ok (.ready e) →
    r.outcome = .ok e
  /-- An element is the result only if the last check has found it, and found it enabled if it must
  be.  Nothing is sent after that. -/
  found : ∀ e, r.outcome = .ok e →
    r.trace = checksTrace (w.probeElement context query condition) (earlier ++ [last]) ∧
    ∃ id t u, e = w.elementOf context id ∧
      ((w.probeElement context query condition).run last).trace = t ++ u ∧
      w.Finds context query t (.ok id) ∧ w.Meets context id condition u
  /-- That there is no element is never what the wait comes to. -/
  known : ∀ f, r.outcome = .error f → f.code? ≠ some .noSuchElement
  /-- Any other failure of a check is what the wait comes to, and nothing is sent after it. -/
  failed : ∀ f, ((w.probeElement context query condition).run last).outcome = .error f →
    f.code? ≠ some .noSuchElement →
      r.outcome = .error f ∧
      r.trace = checksTrace (w.probeElement context query condition) (earlier ++ [last])
  /-- If no check decides, the time is over after the last.  Then the source of the page is asked
  for and reported if it comes. -/
  expired : Poll.Undecided ((w.probeElement context query condition).run last).outcome →
    start.clock + options.timeout.nanoseconds ≤
      ((w.probeElement context query condition).run last).world.clock ∧
    ∃ t source v, w.Asks .getPageSource (w.call context) Json.Decoder.string t source ∧
      (w.ask .getPageSource context Json.Decoder.string).run
        ((w.probeElement context query condition).run last).world = ⟨source, t, v⟩ ∧
      r = ⟨.error (.waitTimeout {
            condition := condition.text
            duration := options.timeout
            query := some query
            snapshot := source.toOption
            context }),
          checksTrace (w.probeElement context query condition) (earlier ++ [last]) ++ t, v⟩

section

variable (w : Window σ) (context : CallSite)

theorem run_reportTimeout {α : Type} (condition : String) (query : Option Locator.Query)
    (options : WaitOptions) (u : World σ) :
    (w.reportTimeout context condition query options : Client σ α).run u =
      { (w.ask .getPageSource context Json.Decoder.string).run u with
        outcome := .error (.waitTimeout {
          condition
          duration := options.timeout
          query
          snapshot :=
            ((w.ask .getPageSource context Json.Decoder.string).run u).outcome.toOption
          context }) } := by
  have attempted : ((w.ask .getPageSource context Json.Decoder.string).attempt.run u).outcome =
      .ok ((w.ask .getPageSource context Json.Decoder.string).run u).outcome := rfl
  have fail_run (f : Failure) (v : World σ) :
      (Client.fail f : Client σ α).run v = ⟨.error f, [], v⟩ := rfl
  rw [reportTimeout, Client.run_bind_ok attempted, fail_run, List.append_nil]
  rfl

/-- What a wait for an element does with what the checks have come to. -/
def conclude (query : Locator.Query) (condition : ElementCondition) (options : WaitOptions) :
    Option (Element σ) → Client σ (Element σ)
  | some element => pure element
  | none => w.reportTimeout context condition.text (some query) options

section

variable {w context} {query : Locator.Query} {condition : ElementCondition}
  {options : WaitOptions} {start last : World σ} {earlier : List (World σ)}
  {interval : Nat} {r : Run σ (Option (Element σ))}
  (paces : options.Paces (w.probeElement context query condition) start interval)
  (checks : Checks (w.probeElement context query condition) interval
    (start.clock + options.timeout.nanoseconds) start earlier last r)

include paces checks

/-- The last check has found an element that is as it should be. -/
theorem elementWait_of_ready {e : Element σ}
    (ready : ((w.probeElement context query condition).run last).outcome = .ok (.ready e)) :
    w.ElementWait context query condition options start earlier last
      ⟨.ok e, checksTrace (w.probeElement context query condition) (earlier ++ [last]),
        ((w.probeElement context query condition).run last).world⟩ where
  first := checks.first
  next := ⟨interval, paces, checks.next⟩
  probes v _ := w.probes_probeElement context query condition v
  undecided v hv := Poll.verdict_eq_none_iff.1 (checks.undecided v hv)
  ready e' h := by
    rw [ready] at h
    cases h
    rfl
  found e' h := by
    have found := w.probes_probeElement context query condition last
    rw [ready] at found
    cases h
    exact ⟨rfl, found.of_ready⟩
  known f h := nomatch h
  failed f h := by
    rw [ready] at h
    cases h
  expired late := by
    rw [← Poll.verdict_eq_none_iff, ready] at late
    cases late

/-- The last check has come to a failure after which a wait does not go on. -/
theorem elementWait_of_failed {f : Failure}
    (failed : ((w.probeElement context query condition).run last).outcome = .error f)
    (other : f.code? ≠ some .noSuchElement) :
    w.ElementWait context query condition options start earlier last
      ⟨.error f, checksTrace (w.probeElement context query condition) (earlier ++ [last]),
        ((w.probeElement context query condition).run last).world⟩ where
  first := checks.first
  next := ⟨interval, paces, checks.next⟩
  probes v _ := w.probes_probeElement context query condition v
  undecided v hv := Poll.verdict_eq_none_iff.1 (checks.undecided v hv)
  ready e h := by
    rw [failed] at h
    cases h
  found e h := nomatch h
  known g h := by
    cases h
    exact other
  failed g h _ := by
    rw [failed] at h
    cases h
    exact ⟨rfl, rfl⟩
  expired late := by
    rw [failed] at late
    rcases late with pending | ⟨g, same, missing⟩
    · cases pending
    · cases same
      exact absurd missing other

/-- The last check has decided nothing, and the time is over after it. -/
theorem elementWait_of_undecided
    (late : Poll.Undecided ((w.probeElement context query condition).run last).outcome)
    {t : List Event} {source : Except Failure String} {v : World σ}
    (asked : (w.ask .getPageSource context Json.Decoder.string).run
      ((w.probeElement context query condition).run last).world = ⟨source, t, v⟩) :
    w.ElementWait context query condition options start earlier last
      ⟨.error (.waitTimeout {
            condition := condition.text
            duration := options.timeout
            query := some query
            snapshot := source.toOption
            context }),
        checksTrace (w.probeElement context query condition) (earlier ++ [last]) ++ t, v⟩ where
  first := checks.first
  next := ⟨interval, paces, checks.next⟩
  probes v _ := w.probes_probeElement context query condition v
  undecided v hv := Poll.verdict_eq_none_iff.1 (checks.undecided v hv)
  ready e h := by
    rw [← Poll.verdict_eq_none_iff, h] at late
    cases late
  found e h := nomatch h
  known f h := by
    cases h
    exact nofun
  failed f h other := by
    rw [h] at late
    rcases late with pending | ⟨g, same, missing⟩
    · cases pending
    · cases same
      exact absurd missing other
  expired _ := by
    have ask := w.asks_ask .getPageSource context Json.Decoder.string
      ((w.probeElement context query condition).run last).world
    rw [asked] at ask
    exact ⟨(checks.expired (Poll.verdict_eq_none_iff.2 late)).2, t, source, v, ask, asked, rfl⟩

end

/-- What the last check says is what the wait comes to. -/
theorem elementWait_of_checks {query : Locator.Query} {condition : ElementCondition}
    {options : WaitOptions} {start last : World σ} {earlier : List (World σ)} {interval : Nat}
    (paces : options.Paces (w.probeElement context query condition) start interval)
    (checks : Checks (w.probeElement context query condition) interval
      (start.clock + options.timeout.nanoseconds) start earlier last
      ((waitUntil (w.probeElement context query condition) options).run start)) :
    w.ElementWait context query condition options start earlier last
      ((waitUntil (w.probeElement context query condition) options >>=
        w.conclude context query condition options).run start) := by
  cases hv : Poll.verdict ((w.probeElement context query condition).run last).outcome with
  | none =>
      rw [Client.run_bind_ok (checks.expired hv).1, conclude, run_reportTimeout, checks.trace,
        checks.world]
      exact elementWait_of_undecided paces checks (Poll.verdict_eq_none_iff.1 hv) rfl
  | some verdict =>
      have outcome := checks.decided verdict hv
      rcases Poll.verdict_eq_some_iff.1 hv with ⟨e, ready, rfl⟩ | ⟨f, failed, other, rfl⟩
      · rw [Client.run_bind_ok outcome, conclude, Client.run_pure, List.append_nil, checks.trace,
          checks.world]
        exact elementWait_of_ready paces checks ready
      · rw [Client.run_bind_error outcome, checks.trace, checks.world]
        exact elementWait_of_failed paces checks failed other

/-- What a wait for an element comes to, by the query of its locator. -/
theorem run_waitForElement_of_resolve {locator : Locator} {query : Locator.Query}
    (resolved : locator.resolve = .ok query) (condition : ElementCondition)
    (options : WaitOptions) (start : World σ) :
    ∃ earlier last, w.ElementWait context query condition options start earlier last
      ((w.waitForElement context locator condition options).run start) := by
  have parts : w.waitForElement context locator condition options =
      Client.resolve locator >>= fun query =>
        waitUntil (w.probeElement context query condition) options >>=
          w.conclude context query condition options := rfl
  rw [parts, Client.run_resolve_bind, resolved]
  have advances := w.advances_probeElement context query condition
  obtain ⟨interval, paces, waits⟩ := waits_waitUntil advances options start
  obtain ⟨earlier, last, checks⟩ := waits.exists_checks
  exact ⟨earlier, last, w.elementWait_of_checks context paces checks⟩

/-- **A wait for an element comes to what its last check says**, or to the report that the time is
over; a locator without a query comes to a failure, and nothing is sent.  What came of the requests
is what the remote end answers to them. -/
theorem run_waitForElement (locator : Locator) (condition : ElementCondition)
    (options : WaitOptions) (start : World σ) :
    (match locator.resolve with
    | .error e =>
      (w.waitForElement context locator condition options).run start =
        ⟨.error (.locator e), [], start⟩
    | .ok query =>
      ∃ earlier last, w.ElementWait context query condition options start earlier last
        ((w.waitForElement context locator condition options).run start)) ∧
    Answered w.session start.remote
      ((w.waitForElement context locator condition options).run start).trace
      ((w.waitForElement context locator condition options).run start).world.remote := by
  refine ⟨?_, w.isAnswered_waitForElement context locator condition options start⟩
  cases resolved : locator.resolve with
  | error e =>
      rw [waitForElement, Client.run_resolve_bind, resolved]
  | ok query => exact w.run_waitForElement_of_resolve context resolved condition options start

end

end WebDriverClient.Window
