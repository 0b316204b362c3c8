/-
**Responses.**

A reply with status 200 is a success if its body is an envelope: an object with one member `value`.
A reply with a status from 400 to 599 is an error of the remote end if the value in its envelope is
an error body.  Everything else is a bad response.  Envelope and error body are recognised on the
text as it is written: unknown members are skipped without being read, a known member may stand
there only once, and either may come as an array of its members.

Main definitions:

* `Response` — what the remote end answers;
* `Call` — on whose behalf and from where a request is sent;
* `Response.outcome` — the value or the failure that a response stands for.
-/

import WebDriverClient.Failure
import WebDriverClient.Json.Written
import WebDriverClient.Wire.Command

set_option autoImplicit false

namespace WebDriverClient

/-- What the remote end answers. -/
structure Response where
  status : UInt16
  body : List UInt8
deriving DecidableEq, Repr

/-- On whose behalf and from where in the caller's code a request is sent. -/
structure Call where
  origin : Origin
  context : CallSite
deriving DecidableEq, Repr

namespace Json.Written

/-- The members with known keys.  Every key must be a text, and no known key may repeat. -/
def knownMembers? (known : List String) :
    List (List UInt8 × Written) → Option (List (String × Written))
  | [] => some []
  | (key, value) :: rest =>
    match text? key, knownMembers? known rest with
    | some k, some members =>
      if k ∈ known then
        if members.any (·.1 = k) then none else some ((k, value) :: members)
      else some members
    | _, _ => none

/-- The members of a record with the given keys, which comes as an object or as an array. -/
def record? (known : List String) : Written → Option (List (Option Written))
  | .object members =>
    (knownMembers? known members).map fun found =>
      known.map fun k => (found.find? (·.1 = k)).map (·.2)
  | .array items =>
    if items.length ≤ known.length then
      some (items.map some ++ List.replicate (known.length - items.length) none)
    else none
  | _ => none

/-- The value in an envelope. -/
def envelope? (w : Written) : Option Written :=
  match record? ["value"] w with
  | some [some value] => some value
  | _ => none

/-- A text that may be absent or `null`; `none` if it is something else. -/
def optionalText? : Option Written → Option (Option String)
  | none => some none
  | some .null => some none
  | some (.string inner) => (text? inner).map some
  | some _ => none

end Json.Written

/-- What an error body says. -/
structure ErrorBody where
  error : String
  message : Option String
  stacktrace : Option String
  data : Option Json

namespace ErrorBody

open Json.Written in
/-- The data of an error body, where `null` counts as absent.  It stands inside two containers. -/
def data? : Option Json.Written → Option (Option Json)
  | none => some none
  | some .null => some none
  | some w => (value? (Json.maxDepth - 2) w).map some

open Json.Written in
/-- Reads an error body. -/
def ofWritten? (w : Json.Written) : Option ErrorBody :=
  match record? ["error", "message", "stacktrace", "data"] w with
  | some [some (.string error), message, stacktrace, data] =>
    match text? error, optionalText? message, optionalText? stacktrace, data? data with
    | some error, some message, some stacktrace, some data =>
      some ⟨error, message, stacktrace, data⟩
    | _, _, _, _ => none
  | _ => none

end ErrorBody

namespace Response

/-- The value of a success: it stands inside the envelope. -/
def value? (r : Response) : Option Json :=
  match Json.Written.parse? r.body with
  | none => none
  | some w =>
    match w.envelope? with
    | none => none
    | some v => v.value? (Json.maxDepth - 1)

/-- The error body of an error. -/
def errorBody? (r : Response) : Option ErrorBody :=
  match Json.Written.parse? r.body with
  | none => none
  | some w =>
    match w.envelope? with
    | none => none
    | some v => ErrorBody.ofWritten? v

/-- The failure for a response that is neither a success nor an error of the protocol. -/
def bad (r : Response) : Failure := .badResponse r.status (Utf8.decodeLossy r.body)

/-- The value or the failure that a response stands for. -/
def outcome (r : Response) (command : String) (call : Call) : Except Failure Json :=
  if r.status = 200 then
    match r.value? with
    | some v => .ok v
    | none => .error r.bad
  else if 400 ≤ r.status ∧ r.status ≤ 599 then
    match r.errorBody? with
    | some body =>
      .error (.protocol {
        code := .ofText body.error
        status := r.status
        message := body.message.getD ""
        stackTrace := body.stacktrace
        data := body.data
        context := call.context
        origin := call.origin
        invoker := command })
    | none => .error r.bad
  else .error r.bad

end Response

end WebDriverClient
