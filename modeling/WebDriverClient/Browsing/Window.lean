/-
**Windows.**

The remote end acts on one window at a time.  Whatever is done in a window, and to an element of
it, the window is first made the current one; if that fails, nothing else is sent.

Main definitions:

* `Window.send` — makes a window the current one and sends a command;
* the operations on windows, from `Window.focus` to `Window.deleteAllCookies`.
-/

import WebDriverClient.Browsing.Script
import WebDriverClient.Browsing.Session
import WebDriverClient.Text.Base64

set_option autoImplicit false

namespace WebDriverClient

variable {σ : Type}

/-- The bytes of a reply that holds Base64. -/
def Client.bytes (encoded : String) : Client σ (List UInt8) :=
  match Base64.decode? encoded.toList with
  | some bytes => return bytes
  | none => Client.fail (.base64 "the reply is not Base64")

namespace Window

/-! ### Requests -/

/-- The handle of a window. -/
def handle (w : Window σ) : WindowHandle := w.identity.id

/-- The window as it is shown in diagnostics. -/
def display (w : Window σ) : String :=
  "Window \x7b handle: " ++ w.handle.display ++ ", kind: "
    ++ w.kind.elim "None" (fun k => "Some(" ++ k.label ++ ")")
    ++ ", session_id: " ++ w.session.id.display ++ ", .. \x7d"

/-- Requests on behalf of the window. -/
def call (w : Window σ) (context : CallSite) : Call := ⟨.window w.session.id w.handle, context⟩

/-- Makes the window the current one. -/
def makeCurrent (w : Window σ) (call : Call) : Client σ Unit := do
  let _ ← w.session.send (.switchToWindow w.handle) call

/-- Makes the window the current one and sends a command. -/
def send (w : Window σ) (command : Command) (call : Call) : Client σ Json := do
  w.makeCurrent call
  w.session.send command call

/-- Does something on behalf of the window and reads the reply. -/
def ask {α : Type} (w : Window σ) (command : Command) (context : CallSite)
    (decoder : Json.Decoder α) : Client σ α := do
  Client.decode decoder (← w.send command (w.call context))

/-- Does something on behalf of the window; what the reply says does not matter. -/
def tell (w : Window σ) (command : Command) (context : CallSite) : Client σ Unit := do
  let _ ← w.send command (w.call context)

/-! ### The window itself -/

/-- Makes the window the current one. -/
def focus (w : Window σ) (context : CallSite) : Client σ Unit :=
  w.makeCurrent (w.call context)

/-- Closes the window.  The reply names the windows that are left. -/
def close (w : Window σ) (context : CallSite) : Client σ Unit := do
  let _ ← w.ask .closeWindow context (Json.Decoder.list WindowHandle.decode)

/-- The position and size. -/
def rect (w : Window σ) : Client σ Rect := w.ask .getWindowRect .unavailable Rect.decode

/-- Moves and resizes the window, and tells where it is then. -/
def setRect (w : Window σ) (context : CallSite) (rect : Rect) : Client σ Rect :=
  w.ask (.setWindowRect rect) context Rect.decode

/-- Maximizes the window. -/
def maximize (w : Window σ) (context : CallSite) : Client σ Rect :=
  w.ask .maximizeWindow context Rect.decode

/-- Minimizes the window. -/
def minimize (w : Window σ) (context : CallSite) : Client σ Rect :=
  w.ask .minimizeWindow context Rect.decode

/-- Makes the window fill the screen. -/
def fullscreen (w : Window σ) (context : CallSite) : Client σ Rect :=
  w.ask .fullscreenWindow context Rect.decode

/-! ### Navigation -/

/-- Loads a page. -/
def navigate (w : Window σ) (context : CallSite) (url : String) : Client σ Unit :=
  w.tell (.navigateTo url) context

/-- The address of the page. -/
def url (w : Window σ) : Client σ String := w.ask .getCurrentUrl .unavailable Json.Decoder.string

/-- The title of the page. -/
def title (w : Window σ) : Client σ String := w.ask .getTitle .unavailable Json.Decoder.string

/-- Goes back in the history. -/
def back (w : Window σ) (context : CallSite) : Client σ Unit := w.tell .back context

/-- Goes forward in the history. -/
def forward (w : Window σ) (context : CallSite) : Client σ Unit := w.tell .forward context

/-- Loads the page again. -/
def refresh (w : Window σ) (context : CallSite) : Client σ Unit := w.tell .refresh context

/-! ### The document -/

/-- The source of the page. -/
def pageSource (w : Window σ) : Client σ String :=
  w.ask .getPageSource .unavailable Json.Decoder.string

/-- Runs a script and tells its result. -/
def execute (w : Window σ) (context : CallSite) (script : Script) : Client σ Json :=
  w.ask script.command context Json.Decoder.any

/-- Runs a script until it calls back, and tells what it calls back with. -/
def executeAsync (w : Window σ) (context : CallSite) (script : Script) : Client σ Json :=
  w.ask script.asyncCommand context Json.Decoder.any

/-- The script that tells how far the document has been loaded. -/
def readyStateScript : Script := { source := "return document.readyState;" }

/-- How far the document has been loaded, asked for at some place. -/
def readyStateFor (w : Window σ) (context : CallSite) : Client σ ReadyState :=
  w.ask readyStateScript.command context ReadyState.decode

/-- How far the document has been loaded. -/
def readyState (w : Window σ) : Client σ ReadyState := w.readyStateFor .unavailable

/-! ### Pictures and prints -/

/-- A picture of the window. -/
def screenshot (w : Window σ) (context : CallSite) : Client σ (List UInt8) := do
  Client.bytes (← w.ask .takeScreenshot context Json.Decoder.string)

/-- The printed page. -/
def print (w : Window σ) (context : CallSite) (options : PrintOptions) :
    Client σ (List UInt8) := do
  Client.bytes (← w.ask (.printPage options) context Json.Decoder.string)

/-! ### Cookies -/

/-- All cookies. -/
def cookies (w : Window σ) : Client σ (List Cookie) :=
  w.ask .getAllCookies .unavailable (Json.Decoder.list Cookie.decode)

/-- The cookie of a name. -/
def cookie (w : Window σ) (context : CallSite) (name : String) : Client σ Cookie :=
  w.ask (.getNamedCookie name) context Cookie.decode

/-- Adds a cookie. -/
def addCookie (w : Window σ) (context : CallSite) (cookie : Cookie) : Client σ Unit :=
  w.tell (.addCookie cookie) context

/-- Removes the cookie of a name. -/
def deleteCookie (w : Window σ) (context : CallSite) (name : String) : Client σ Unit :=
  w.tell (.deleteCookie name) context

/-- Removes all cookies. -/
def deleteAllCookies (w : Window σ) (context : CallSite) : Client σ Unit :=
  w.tell .deleteAllCookies context

end Window

end WebDriverClient
