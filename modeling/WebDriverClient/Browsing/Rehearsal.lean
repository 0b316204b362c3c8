/-
**Rehearsals.**

A client can be tried out without a driver, against a remote end whose replies are known beforehand,
and a wait can be tried out with checks whose outcomes are known beforehand.

Main definitions:

* `Rehearsal.Reply` — the replies of a remote end;
* `Rehearsal.Route`, `Rehearsal.transport` — a remote end that has replies for each method and path;
* `Rehearsal.Check`, `Rehearsal.check` — the checks of a wait.
-/

import WebDriverClient.Browsing.Wait

set_option autoImplicit false

namespace WebDriverClient.Rehearsal

/-! ### Replies -/

/-- The body of a reply. -/
def body (text : String) : List UInt8 := Utf8.encode text

/-- What a remote end replies. -/
inductive Reply where
  | success (value : Json)
  | failure (status : UInt16) (code : String)
  | raw (status : UInt16) (text : String)
  | lost (reason : String)

/-- The outcome of the exchange in which a reply is sent. -/
def Reply.outcome : Reply → Except Failure Response
  | success value => .ok ⟨200, body (Json.ofMembers [("value", value)]).render⟩
  | failure status code =>
    let error := Json.ofMembers [("error", .string code),
      ("message", .string (code ++ " (scripted)")), ("stacktrace", .string "")]
    .ok ⟨status, body (Json.ofMembers [("value", error)]).render⟩
  | raw status text => .ok ⟨status, body text⟩
  | lost reason => .error (.connection reason)

/-- A reply and the time that it takes. -/
structure Timed where
  reply : Reply
  delay : Nat := 0

/-- The exchange in which a reply is sent. -/
def Timed.delivery (t : Timed) : Delivery := ⟨t.reply.outcome, t.delay⟩

/-! ### Routes -/

/-- The replies to the requests with one method and path. -/
structure Route where
  method : Method
  path : String
  /-- The replies in their order, the last of which repeats. -/
  replies : List Timed

/-- The reply to a request that has none of its own. -/
def unrouted : Timed := { reply := .success .null }

/-- The next reply, and the replies after it. -/
def next : List Timed → Timed × List Timed
  | [] => (unrouted, [])
  | [last] => (last, [last])
  | reply :: rest => (reply, rest)

/-- A remote end that takes its replies from routes. -/
def transport : Transport (List Route) := fun request routes =>
  match routes with
  | [] => (unrouted.delivery, [])
  | route :: rest =>
    if route.method = request.method ∧ route.path = request.path then
      let (reply, replies) := next route.replies
      (reply.delivery, { route with replies } :: rest)
    else
      let (delivery, rest) := transport request rest
      (delivery, route :: rest)

/-! ### Checks -/

/-- A check of a wait and the time that it takes. -/
structure Check (α : Type) where
  outcome : Except Failure (Poll α)
  cost : Nat := 0

/-- The checks of a wait, the `n`th of which is `script n`. -/
def check {α : Type} (script : Nat → Check α) : Client Nat (Poll α) := fun w =>
  ⟨(script w.remote).outcome, [],
    { w with remote := w.remote + 1, clock := w.clock + (script w.remote).cost }⟩

end WebDriverClient.Rehearsal
