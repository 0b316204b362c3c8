/-
**Failures.**

What an operation reports instead of a result, with its wording.  An error of the remote end says
on whose behalf the request was sent, which command it was and where in the caller's code the
operation was started.

Main definitions:

* `Origin` — on whose behalf a request is sent;
* `ProtocolError`, `WaitTimeout` — an error of the remote end, and a wait that ran out of time;
* `Failure` — the failures, and `Failure.message`, their wording;
* `Failure.isTimeout`, `Failure.isNoSuchElement`, `Failure.isStale`, `Failure.isRetryable` — what a
  caller may ask of a failure.
-/

import WebDriverClient.Locator.Failure
import WebDriverClient.Locator.Query
import WebDriverClient.Text.Duration
import WebDriverClient.Text.Lines
import WebDriverClient.Url.Failure
import WebDriverClient.Wire.ErrorCode
import WebDriverClient.Wire.Identifier

set_option autoImplicit false

namespace WebDriverClient

/-! ### Origins -/

/-- On whose behalf a request is sent. -/
inductive Origin where
  /-- Before there is a session. -/
  | driver
  | session (session : SessionId)
  | window (session : SessionId) (window : WindowHandle)
  | element (session : SessionId) (window : WindowHandle) (element : ElementId)
deriving DecidableEq, Repr

/-- The origin as it is shown in messages. -/
def Origin.text : Origin → String
  | .driver => "driver"
  | .session s => s!"session {s.text}"
  | .window s w => s!"window {w.text} (session {s.text})"
  | .element s w e => s!"element {e.text} in window {w.text} (session {s.text})"

/-! ### Errors of the remote end and waits -/

/-- An error that the remote end reports. -/
structure ProtocolError where
  code : ErrorCode
  status : UInt16
  message : String
  stackTrace : Option String
  data : Option Json
  /-- Where the operation was started. -/
  context : CallSite
  /-- On whose behalf the request was sent. -/
  origin : Origin
  /-- The name of the command. -/
  invoker : String

/-- The lines of a stack trace, each on a line of its own. -/
def traceLines (trace : String) : String :=
  String.join ((Lines.split '\n' '\r' trace.toList).map fun line =>
    "\n    " ++ String.ofList line)

/-- The wording of an error of the remote end. -/
def ProtocolError.description (e : ProtocolError) : String :=
  s!"WebDriver error: {e.code.text} (HTTP {e.status})\n" ++
  s!"  message: {e.message}\n" ++
  s!"  command: {e.invoker}\n" ++
  s!"  origin:  {e.origin.text}\n" ++
  s!"  called from: {e.context.text}" ++
  (e.data.elim "" fun data => "\n  data: " ++ data.render) ++
  match e.stackTrace with
  | none => ""
  | some trace => if trace.isEmpty then "" else "\n  stack trace:" ++ traceLines trace

/-- A wait that ran out of time. -/
structure WaitTimeout where
  condition : String
  duration : Duration
  query : Option Locator.Query
  /-- The source of the page after the wait, if it could be fetched. -/
  snapshot : Option String
  context : CallSite

/-- The wording of a wait that ran out of time. -/
def WaitTimeout.message (w : WaitTimeout) : String :=
  let subject := w.query.elim "" fun q => " (" ++ q.display ++ ")"
  s!"Waiting for {w.condition}{subject} timed out ({w.duration.display})\n" ++
  s!"  called from: {w.context.text}"

/-! ### Failures -/

/-- What an operation reports instead of a result. -/
inductive Failure where
  | config (reason : String)
  | driverNotFound (path : String)
  | processLaunchFailed (reason : String)
  | connection (reason : String)
  /-- The driver did not announce itself in this many milliseconds. -/
  | connectionTimeout (milliseconds : Nat)
  | locator (reason : Locator.Failure)
  | protocol (error : ProtocolError)
  | waitTimeout (wait : WaitTimeout)
  | badResponse (status : UInt16) (body : String)
  | http (reason : String)
  | json (reason : Json.Mismatch)
  | io (reason : String)
  | url (reason : Url.Failure)
  | base64 (reason : String)

namespace Failure

/-- The wording of a failure. -/
def message : Failure → String
  | config reason => "Configuration error: " ++ reason
  | driverNotFound path => "Driver binary not found at: " ++ path
  | processLaunchFailed reason => "Failed to launch driver: " ++ reason
  | connection reason => "Connection failed: " ++ reason
  | connectionTimeout ms => s!"Connection timeout after {ms}ms"
  | locator reason => "Invalid locator: " ++ reason.message
  | protocol error => error.description
  | waitTimeout wait => wait.message
  | badResponse status body => s!"Bad response (HTTP {status}): {body}"
  | http reason => "HTTP error: " ++ reason
  | json reason => "JSON error: " ++ reason.message
  | io reason => "IO error: " ++ reason
  | url reason => "URL error: " ++ reason.message
  | base64 reason => "Base64 error: " ++ reason

/-- The error code, if the remote end reports one. -/
def code? : Failure → Option ErrorCode
  | protocol error => some error.code
  | _ => none

/-- Something took too long. -/
def isTimeout : Failure → Bool
  | connectionTimeout _ | waitTimeout _ => true
  | f => f.code? = some .timeout || f.code? = some .scriptTimeout

/-- No element matches. -/
def isNoSuchElement (f : Failure) : Bool := f.code? = some .noSuchElement

/-- An element or a window is no longer there. -/
def isStale (f : Failure) : Bool :=
  f.code? = some .staleElementReference || f.code? = some .noSuchWindow

/-- A wait goes on after this failure. -/
def isRetryable (f : Failure) : Bool := f.isNoSuchElement

end Failure

end WebDriverClient
