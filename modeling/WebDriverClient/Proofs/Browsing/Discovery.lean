/-
**Searches for elements.**

There are five ways to look for elements, three in a window and two below an element, one of which
asks again and again.  All of them read the locator first, and nothing is sent for a locator that
has no query.  If it has one, no search that is sent asks for anything else.  Which requests are
searches is told from the wire: from the method and the end of the path, not from the operation.

Main definitions:

* `Request.IsSearch` — the requests that ask for elements;
* `Discovery`, `Discovery.search` — the ways to look for elements;
* `Discovery.queryFor` — the query that is sent for a query;
* `SearchesFor`, `Window.OpensWith` — what the searches of a trace ask for, and how a trace begins.

Main results:

* `Command.isSearch_request_iff` — the searches are the requests of the commands that find elements;
* `Discovery.run_search` — **only the query of the locator reaches the wire**.
-/

import WebDriverClient.Proofs.Browsing.ElementWait
import WebDriverClient.Proofs.Browsing.FirstResponder
import WebDriverClient.Proofs.Wire.Classification
import WebDriverClient.Proofs.Wire.Segments

set_option autoImplicit false

namespace WebDriverClient

variable {σ α β : Type}

/-! ### Requests that search -/

/-- The last segment of the path of a request. -/
def Request.lastSegment? (r : Request) : Option (List Char) :=
  (r.path.toList.splitOnP (· = '/')).getLast?

/-- The request asks for elements. -/
def Request.IsSearch (r : Request) : Prop :=
  r.method = .post ∧
    (r.lastSegment? = some "element".toList ∨ r.lastSegment? = some "elements".toList)

namespace Command

/-- The query that a command sends, if it asks for elements. -/
def query? : Command → Option Locator.Query
  | findElement query | findElements query => some query
  | findElementFromElement _ query | findElementsFromElement _ query => some query
  | _ => none

theorem lastSegment?_request (c : Command) (session : SessionId) :
    (c.request session).lastSegment? =
      (c.texts session).getLast?.map (Percent.encode Percent.isUnreserved) := by
  have free (s) (mem : s ∈ (c.texts session).map (Percent.encode Percent.isUnreserved))
      (x) (here : x ∈ s) : decide (x = '/') = false := by
    obtain ⟨text, -, rfl⟩ := List.mem_map.1 mem
    exact decide_eq_false (ne_slash_of_mem here)
  rw [Request.lastSegment?, path_request, String.toList_ofList,
    Url.Path.splitOnP_text (by decide) free, texts, segments, List.map_cons, List.map_cons,
    List.getLast?_cons_cons, ← List.map_cons, List.getLast?_map]

/-- **The searches are the requests of the commands that find elements.** -/
theorem isSearch_request_iff (c : Command) (session : SessionId) :
    (c.request session).IsSearch ↔ c.query?.isSome := by
  rw [Request.IsSearch, lastSegment?_request]
  -- Every path that something is sent to by POST ends in a word of the protocol.
  cases c
  all_goals
    simp only [query?, request, route, Route.method, Route.parts, texts, segments, ofElement,
      List.map_cons, List.map_nil, Part.text, List.getLast?_cons_cons, List.getLast?_singleton,
      Option.map_some, reduceCtorEq, false_and, true_and, Option.isSome_none, Option.isSome_some]
  all_goals decide

/-- The query is the body of the request. -/
theorem body_request_of_query? {c : Command} {query : Locator.Query} (h : c.query? = some query)
    (session : SessionId) : (c.request session).body = some query.toJson := by
  cases c
  case findElement | findElements | findElementFromElement | findElementsFromElement =>
    cases h
    rfl
  all_goals cases h

end Command

/-! ### What is searched for -/

/-- Every search among the events asks for this query. -/
def SearchesFor (query : Locator.Query) (t : List Event) : Prop :=
  ∀ x ∈ exchanges t, x.1.IsSearch →
    x.1.body = some (.ofMembers [("using", .string query.strategy.text),
      ("value", .string query.value)])

theorem SearchesFor.composes (query : Locator.Query) : Client.Composes (SearchesFor query) where
  nil x h := nomatch h
  append ht hu x h := by
    rw [exchanges, List.filterMap_append] at h
    exact (List.mem_append.1 h).elim (ht x) (hu x)

theorem searchesFor_check (query : Locator.Query) (time : Nat) :
    SearchesFor query [.check time] := fun _ h => nomatch h

theorem Command.searchesFor_request {c : Command} {query : Locator.Query}
    (only : ∀ q, c.query? = some q → q = query) (call : Call) (session : SessionId)
    (o : Except Failure Response) : SearchesFor query [.exchange call (c.request session) o] := by
  intro x member search
  obtain rfl := List.mem_singleton.1 member
  obtain ⟨q, hq⟩ := Option.isSome_iff_exists.1 ((c.isSearch_request_iff session).1 search)
  rw [← only q hq]
  exact body_request_of_query? hq session

namespace Window

variable (w : Window σ) {command : Command} {query : Locator.Query}

theorem Sends.searchesFor {w : Window σ} {call : Call} {t : List Event} {r : Except Failure Json}
    (h : w.Sends command call t r) (only : ∀ q, command.query? = some q → q = query) :
    SearchesFor query t := by
  have switch (o : Except Failure Response) : SearchesFor query [.exchange call w.switch o] :=
    Command.searchesFor_request (c := .switchToWindow w.handle) nofun call _ o
  cases h with
  | refused => exact switch _
  | @sent o p =>
      have next := Command.searchesFor_request only call w.session.id p
      exact (SearchesFor.composes query).append (switch o) next

theorem searchesFor_ask (only : ∀ q, command.query? = some q → q = query) (context : CallSite)
    (decoder : Json.Decoder α) :
    (w.ask command context decoder).Ensures (SearchesFor query)
      (Client.Delivers fun _ => True) := by
  intro v
  obtain ⟨r, sends, -⟩ := w.asks_ask command context decoder v
  exact ⟨sends.searchesFor only, fun _ _ => trivial⟩

end Window

theorem Element.searchesFor_ask (e : Element σ) {command : Command} {query : Locator.Query}
    (only : ∀ q, command.query? = some q → q = query) (context : CallSite)
    (decoder : Json.Decoder α) :
    (e.ask command context decoder).Ensures (SearchesFor query)
      (Client.Delivers fun _ => True) := by
  intro v
  obtain ⟨r, sends, -⟩ := e.asks_ask command context decoder v
  exact ⟨sends.searchesFor only, fun _ _ => trivial⟩

namespace Window

variable (w : Window σ) (context : CallSite) (query : Locator.Query)

theorem searchesFor_findByQuery :
    (w.findByQuery context query).Ensures (SearchesFor query) (Client.Delivers fun _ => True) :=
  (w.searchesFor_ask (by rintro q ⟨⟩; rfl) context _).bind_delivers (SearchesFor.composes query)
    fun _ _ => Client.ensures_pure (SearchesFor.composes query) fun _ _ => trivial

/-- Every check of a wait asks for the query of the wait; whether an element is enabled is no
search. -/
theorem searchesFor_probeElement (condition : ElementCondition) :
    (w.probeElement context query condition).Ensures (SearchesFor query)
      (Client.Delivers (Client.Finds fun _ => True)) := by
  have composes := SearchesFor.composes query
  have poll (p : Poll (Element σ)) : (pure p : Client σ (Poll (Element σ))).Ensures
      (SearchesFor query) (Client.Delivers (Client.Finds fun _ => True)) := by
    refine Client.ensures_pure composes fun q _ => ?_
    cases q <;> trivial
  refine (w.searchesFor_findByQuery context query).bind_delivers composes fun e _ => ?_
  cases condition with
  | presence => exact poll _
  | enabled =>
      have other : ∀ q, (Command.isElementEnabled e.id).query? = some q → q = query :=
        fun _ h => nomatch h
      refine (e.searchesFor_ask other context _).bind_delivers composes fun enabled _ => ?_
      cases enabled with
      | true => exact poll _
      | false => exact poll _

/-- The source of the page, which is asked for when the time is over, is no search. -/
theorem searchesFor_conclude (condition : ElementCondition) (options : WaitOptions)
    (found : Option (Element σ)) :
    (w.conclude context query condition options found).Ensures (SearchesFor query)
      (Client.Delivers fun _ => True) := by
  have composes := SearchesFor.composes query
  cases found with
  | some e => exact Client.ensures_pure composes fun _ _ => trivial
  | none =>
      have other : ∀ q, Command.getPageSource.query? = some q → q = query := fun _ h => nomatch h
      have source := (w.searchesFor_ask other context Json.Decoder.string).attempt
        (R := fun _ => True) fun _ _ => trivial
      exact source.bind_delivers composes fun _ _ =>
        Client.ensures_fail composes fun _ h => nomatch h

end Window

/-! ### How a trace begins -/

/-- What an operation begins with is done by every operation that goes on with its result. -/
theorem Client.prefix_trace_bind (x : Client σ α) (f : α → Client σ β) (v : World σ) :
    (x.run v).trace <+: ((x >>= f).run v).trace := by
  cases h : (x.run v).outcome with
  | ok a =>
      rw [Client.run_bind_ok h]
      exact List.prefix_append _ _
  | error e =>
      exact ⟨[], by rw [Client.run_bind_error h, List.append_nil]⟩

theorem Waits.prefix_trace {check : Client σ (Poll α)} {interval deadline : Nat} {v : World σ}
    {r : Run σ (Option α)} (h : Waits check interval deadline v r) :
    .check v.clock :: (check.run v).trace <+: r.trace := by
  cases h with
  | decided | expired => exact List.prefix_rfl
  | paused => exact List.prefix_append _ _

namespace Window

/-- The window is switched to first, and if that is a success the command is sent next. -/
def OpensWith (w : Window σ) (command : Command) (t : List Event) : Prop :=
  ∃ o rest, exchanges t = (w.switch, o) :: rest ∧
    (Succeeded o → ∃ p rest', rest = (command.request w.session.id, p) :: rest')

variable {w : Window σ} {command : Command} {t u : List Event}

theorem OpensWith.mono (h : w.OpensWith command t) (longer : t <+: u) :
    w.OpensWith command u := by
  obtain ⟨o, rest, first, next⟩ := h
  obtain ⟨more, rfl⟩ := longer
  refine ⟨o, rest ++ exchanges more, ?_, fun success => ?_⟩
  · rw [exchanges, List.filterMap_append, ← exchanges, ← exchanges, first, List.cons_append]
  · obtain ⟨p, rest', rfl⟩ := next success
    exact ⟨p, rest' ++ exchanges more, rfl⟩

/-- A switch that was answered with a success has not been refused. -/
theorem not_succeeded_of_reply {o : Except Failure Response} {name : String} {call : Call}
    {e : Failure} (h : reply name call o = .error e) : ¬ Succeeded o := by
  rintro ⟨r, value, rfl, status, read⟩
  have outcome := (Response.outcome_eq_ok_iff r name call value).2
    ⟨status, Response.value?_eq_some_iff.1 read⟩
  rw [reply, outcome] at h
  cases h

theorem Sends.opensWith {call : Call} {r : Except Failure Json}
    (h : w.Sends command call t r) : w.OpensWith command t := by
  cases h with
  | refused switch =>
      exact ⟨_, [], rfl, fun success => absurd success (not_succeeded_of_reply switch)⟩
  | sent => exact ⟨_, _, rfl, fun _ => ⟨_, [], rfl⟩⟩

theorem opensWith_ask (w : Window σ) (command : Command) (context : CallSite)
    (decoder : Json.Decoder α) (v : World σ) :
    w.OpensWith command ((w.ask command context decoder).run v).trace := by
  obtain ⟨r, sends, -⟩ := w.asks_ask command context decoder v
  exact sends.opensWith

end Window

theorem Element.opensWith_ask (e : Element σ) (command : Command) (context : CallSite)
    (decoder : Json.Decoder α) (v : World σ) :
    e.window.OpensWith command ((e.ask command context decoder).run v).trace := by
  obtain ⟨r, sends, -⟩ := e.asks_ask command context decoder v
  exact sends.opensWith

/-! ### Discoveries -/

/-- The ways to look for elements, and where; what is found is of type `α`. -/
inductive Discovery (σ : Type) : Type → Type where
  | first (w : Window σ) : Discovery σ (Element σ)
  | every (w : Window σ) : Discovery σ (List (Element σ))
  | awaited (w : Window σ) (condition : ElementCondition) (options : WaitOptions) :
      Discovery σ (Element σ)
  | firstBelow (e : Element σ) : Discovery σ (Element σ)
  | everyBelow (e : Element σ) : Discovery σ (List (Element σ))

namespace Discovery

/-- Looks for elements. -/
def search (context : CallSite) (locator : Locator) : Discovery σ α → Client σ α
  | first w => w.findElement context locator
  | every w => w.findElements context locator
  | awaited w condition options => w.waitForElement context locator condition options
  | firstBelow e => e.findElement context locator
  | everyBelow e => e.findElements context locator

/-- The window in which elements are looked for. -/
def window : Discovery σ α → Window σ
  | first w | every w | awaited w _ _ => w
  | firstBelow e | everyBelow e => e.window

/-- The query that is sent for a query: below an element it is anchored there. -/
def queryFor (query : Locator.Query) : Discovery σ α → Locator.Query
  | first _ | every _ | awaited _ _ _ => query
  | firstBelow _ | everyBelow _ => query.anchored

/-- The command that sends a query. -/
def command (query : Locator.Query) : Discovery σ α → Command
  | first _ | awaited _ _ _ => .findElement query
  | every _ => .findElements query
  | firstBelow e => .findElementFromElement e.id query
  | everyBelow e => .findElementsFromElement e.id query

/-- What is done with the query of a locator. -/
def carryOut (context : CallSite) : Discovery σ α → Locator.Query → Client σ α
  | first w => w.findByQuery context
  | every w => fun query => do
    let found ← w.ask (.findElements query) context (Json.Decoder.list ElementId.decodeReference)
    return found.map (w.elementOf context)
  | awaited w condition options => fun query =>
    waitUntil (w.probeElement context query condition) options >>=
      w.conclude context query condition options
  | firstBelow e => fun query => do
    let found ← e.ask (.findElementFromElement e.id query.anchored) context
      ElementId.decodeReference
    return e.window.elementOf context found
  | everyBelow e => fun query => e.findAllByQuery context query.anchored

variable (d : Discovery σ α) (context : CallSite)

theorem search_eq (locator : Locator) :
    d.search context locator = Client.resolve locator >>= d.carryOut context := by
  cases d <;> rfl

theorem searchesFor_carryOut (query : Locator.Query) :
    (d.carryOut context query).Ensures (SearchesFor (d.queryFor query))
      (Client.Delivers fun _ => True) := by
  have composes (q : Locator.Query) := SearchesFor.composes q
  cases d with
  | first w => exact w.searchesFor_findByQuery context query
  | every w =>
      exact (w.searchesFor_ask (by rintro q ⟨⟩; rfl) context _).bind_delivers (composes _)
        fun _ _ => Client.ensures_pure (composes _) fun _ _ => trivial
  | awaited w condition options =>
      exact (Client.ensures_waitUntil (composes _) (searchesFor_check query)
        (w.searchesFor_probeElement context query condition) options).bind_delivers (composes _)
        fun found _ => w.searchesFor_conclude context query condition options found
  | firstBelow e | everyBelow e =>
      exact (e.searchesFor_ask (by rintro q ⟨⟩; rfl) context _).bind_delivers (composes _)
        fun _ _ => Client.ensures_pure (composes _) fun _ _ => trivial

/-- The first exchanges are those of the first command, whatever comes after them. -/
theorem opensWith_carryOut (query : Locator.Query) (v : World σ) :
    d.window.OpensWith (d.command (d.queryFor query)) ((d.carryOut context query).run v).trace := by
  cases d with
  | first w =>
      exact (w.opensWith_ask _ context _ v).mono (Client.prefix_trace_bind _ _ v)
  | every w =>
      exact (w.opensWith_ask _ context _ v).mono (Client.prefix_trace_bind _ _ v)
  | awaited w condition options =>
      have find := (w.opensWith_ask (.findElement query) context ElementId.decodeReference v)
      have probe : w.OpensWith (.findElement query)
          ((w.probeElement context query condition).run v).trace :=
        (find.mono (Client.prefix_trace_bind _ _ v)).mono (Client.prefix_trace_bind _ _ v)
      -- Checks leave no exchange, so the wait begins as its first check does.
      have check : w.OpensWith (.findElement query)
          (.check v.clock :: ((w.probeElement context query condition).run v).trace) := probe
      obtain ⟨interval, -, waits⟩ :=
        waits_waitUntil (w.advances_probeElement context query condition) options v
      exact (check.mono waits.prefix_trace).mono (Client.prefix_trace_bind _ _ v)
  | firstBelow e =>
      exact (e.opensWith_ask _ context _ v).mono (Client.prefix_trace_bind _ _ v)
  | everyBelow e =>
      exact (e.opensWith_ask _ context _ v).mono (Client.prefix_trace_bind _ _ v)

/-- The exchanges of a search end as the transport answers them. -/
theorem isAnswered_search (locator : Locator) :
    (d.search context locator).IsAnswered d.window.session := by
  cases d with
  | first w => exact w.isAnswered_findElement context locator
  | every w => exact w.isAnswered_findElements context locator
  | awaited w condition options =>
      exact w.isAnswered_waitForElement context locator condition options
  | firstBelow e => exact e.isAnswered_findElement context locator
  | everyBelow e => exact e.isAnswered_findElements context locator

/-- **Only the query of the locator reaches the wire.**  What came of the requests is what the
remote end answers to them. -/
theorem run_search (e : Locator.Expression) (v : World σ) :
    (match e.compile with
    | .error f => (d.search context (.expression e)).run v = ⟨.error (.locator f), [], v⟩
    | .ok query =>
      SearchesFor (d.queryFor query) ((d.search context (.expression e)).run v).trace ∧
        d.window.OpensWith (d.command (d.queryFor query))
          ((d.search context (.expression e)).run v).trace) ∧
    Answered d.window.session v.remote ((d.search context (.expression e)).run v).trace
      ((d.search context (.expression e)).run v).world.remote := by
  refine ⟨?_, d.isAnswered_search context (.expression e) v⟩
  have resolved : (Locator.expression e).resolve = e.compile := rfl
  rw [search_eq, Client.run_resolve_bind, resolved]
  cases e.compile with
  | error f => rfl
  | ok query =>
      exact ⟨(d.searchesFor_carryOut context query v).1, d.opensWith_carryOut context query v⟩

end Discovery

end WebDriverClient
