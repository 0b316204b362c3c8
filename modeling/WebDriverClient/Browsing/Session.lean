/-
**Sessions.**

Main definitions:

* `Session`, `Window`, `Element` — a session, a window of it, and an element of a window;
* `Session.send` — sends a command on behalf of anything in a session;
* the operations on sessions, from `Session.status` to `Session.close`;
* `Session.create` — asks for a session.
-/

import WebDriverClient.Browsing.Wait
import WebDriverClient.Endpoint.Capabilities
import WebDriverClient.Endpoint.Launcher

set_option autoImplicit false

namespace WebDriverClient

/-! ### The things of a session -/

/-- A session. -/
structure Session (σ : Type) where
  identity : Identified SessionId
  transport : Transport σ
  launcher : Launcher σ

/-- A window of a session. -/
structure Window (σ : Type) where
  identity : Identified WindowHandle
  kind : Option WindowKind
  session : Session σ

/-- An element of a window. -/
structure Element (σ : Type) where
  identity : Identified ElementId
  window : Window σ

variable {σ : Type}

instance : BEq (Session σ) := ⟨fun a b => a.identity == b.identity⟩

instance : BEq (Window σ) := ⟨fun a b => a.identity == b.identity⟩

instance : BEq (Element σ) := ⟨fun a b => a.identity == b.identity⟩

namespace Session

/-! ### Requests -/

/-- The identifier of a session. -/
def id (s : Session σ) : SessionId := s.identity.id

/-- The session as it is shown in diagnostics. -/
def display (s : Session σ) : String :=
  "Session \x7b id: " ++ s.id.display ++ ", base_url: " ++ Text.quote s.launcher.base.text
    ++ ", .. \x7d"

/-- Requests on behalf of the session. -/
def call (s : Session σ) (context : CallSite) : Call := ⟨.session s.id, context⟩

/-- Sends a request and reads the value of the reply. -/
def submit (s : Session σ) (request : Request) (call : Call) : Client σ Json := do
  let response ← Client.exchange s.transport call request
  Client.ofExcept (response.outcome request.name call)

/-- Sends a command. -/
def send (s : Session σ) (command : Command) (call : Call) : Client σ Json :=
  s.submit (command.request s.id) call

/-- Sends a command on behalf of the session and reads the reply. -/
def ask {α : Type} (s : Session σ) (command : Command) (context : CallSite)
    (decoder : Json.Decoder α) : Client σ α := do
  Client.decode decoder (← s.send command (s.call context))

/-- Sends a command on behalf of the session; what the reply says does not matter. -/
def tell (s : Session σ) (command : Command) (context : CallSite) : Client σ Unit := do
  let _ ← s.send command (s.call context)

/-! ### The state of the session -/

/-- Whether the remote end can create sessions. -/
def status (s : Session σ) : Client σ Status := do
  Client.decode Status.decode
    (← s.submit EndpointCommand.status.request (s.call .unavailable))

/-- The timeouts. -/
def timeouts (s : Session σ) : Client σ Timeouts := s.ask .getTimeouts .unavailable Timeouts.decode

/-- Sets the timeouts that are given. -/
def setTimeouts (s : Session σ) (context : CallSite) (timeouts : Timeouts) : Client σ Unit :=
  s.tell (.setTimeouts timeouts) context

/-! ### Navigation -/

/-- Loads a page. -/
def navigate (s : Session σ) (context : CallSite) (url : String) : Client σ Unit :=
  s.tell (.navigateTo url) context

/-- The address of the page. -/
def url (s : Session σ) : Client σ String := s.ask .getCurrentUrl .unavailable Json.Decoder.string

/-- The title of the page. -/
def title (s : Session σ) : Client σ String := s.ask .getTitle .unavailable Json.Decoder.string

/-- Goes back in the history. -/
def back (s : Session σ) (context : CallSite) : Client σ Unit := s.tell .back context

/-- Goes forward in the history. -/
def forward (s : Session σ) (context : CallSite) : Client σ Unit := s.tell .forward context

/-- Loads the page again. -/
def refresh (s : Session σ) (context : CallSite) : Client σ Unit := s.tell .refresh context

/-! ### Windows -/

/-- The window of a handle. -/
def windowOf (s : Session σ) (context : CallSite) (kind : Option WindowKind)
    (handle : WindowHandle) : Window σ :=
  ⟨⟨handle, context⟩, kind, s⟩

/-- The current window. -/
def window (s : Session σ) (context : CallSite) : Client σ (Window σ) := do
  return s.windowOf context none (← s.ask .getWindowHandle context WindowHandle.decode)

/-- All windows. -/
def windows (s : Session σ) (context : CallSite) : Client σ (List (Window σ)) := do
  let handles ← s.ask .getWindowHandles context (Json.Decoder.list WindowHandle.decode)
  return handles.map (s.windowOf context none)

/-- Opens a window.  It is of the kind that was asked for unless the remote end says otherwise. -/
def newWindow (s : Session σ) (context : CallSite) (kind : WindowKind) :
    Client σ (Window σ) := do
  let created ← s.ask (.newWindow kind) context NewWindow.decode
  return s.windowOf context (some (created.kind.getD kind)) created.handle

/-! ### Creation and end -/

/-- Ends the session and stops its driver, which is done even if the session cannot be ended.  A
driver that cannot be stopped is the failure that is reported. -/
def close (s : Session σ) (context : CallSite) : Client σ Unit := do
  let deleted ← (s.tell .deleteSession context).attempt
  s.launcher.stop
  Client.ofExcept deleted

/-- Asks for a session and reads what has been created. -/
def request (transport : Transport σ) (capabilities : Capabilities) (context : CallSite) :
    Client σ NewSession := do
  let request := (EndpointCommand.newSession capabilities.toJson).request
  let call : Call := ⟨.driver, context⟩
  let response ← Client.exchange transport call request
  Client.decode NewSession.decode (← Client.ofExcept (response.outcome request.name call))

/-- Asks for a session.  If there is none, the driver is stopped; whether it can be stopped does
not matter then. -/
def create (transport : Transport σ) (launcher : Launcher σ) (capabilities : Capabilities)
    (context : CallSite) : Client σ (Session σ) := do
  match ← (request transport capabilities context).attempt with
  | .ok created => return ⟨⟨⟨created.sessionId⟩, context⟩, transport, launcher⟩
  | .error e =>
    let _ ← launcher.stop.attempt
    Client.fail e

end Session

end WebDriverClient
