/-
**Commands and requests.**

Every command of a session is a method, a route below the address of the session and, if the method
is POST, a body.  A route is a list of parts: words of the protocol, and texts that are given, which
are percent-encoded so that each is one segment of the path.

Main definitions:

* `Command`, `EndpointCommand` — the commands of a session, and those that need none;
* `Command.route` — the method, the parts of the path and the body of a command;
* `Request` — what is sent, `Command.request` and `EndpointCommand.request`.
-/

import WebDriverClient.Locator.Query
import WebDriverClient.Text.Percent
import WebDriverClient.Wire.Values

set_option autoImplicit false

namespace WebDriverClient

/-! ### Requests -/

/-- The methods of requests. -/
inductive Method where
  | get
  | post
  | delete
deriving DecidableEq, Repr

/-- The name of a method. -/
def Method.text : Method → String
  | .get => "GET"
  | .post => "POST"
  | .delete => "DELETE"

/-- What is sent to the remote end. -/
structure Request where
  method : Method
  /-- The path below the address of the remote end. -/
  path : String
  body : Option Json
  /-- The name of the command. -/
  name : String

/-! ### Routes -/

/-- A segment of a path. -/
inductive Part where
  | word (w : String)
  | given (s : String)
deriving DecidableEq, Repr

/-- A segment as it is sent, after a slash. -/
def Part.encode : Part → List Char
  | .word w => '/' :: w.toList
  | .given s => '/' :: Percent.encode Percent.isUnreserved s

/-- The path of segments. -/
def pathOf (parts : List Part) : String := String.ofList (parts.flatMap Part.encode)

/-- How a command is sent. -/
inductive Route where
  | get (parts : List Part)
  | post (parts : List Part) (body : Json)
  | delete (parts : List Part)

namespace Route

/-- The method. -/
def method : Route → Method
  | .get _ => .get
  | .post _ _ => .post
  | .delete _ => .delete

/-- The segments of the path below the address of the session. -/
def parts : Route → List Part
  | .get ps => ps
  | .post ps _ => ps
  | .delete ps => ps

/-- The body, which only the method POST has. -/
def body : Route → Option Json
  | .post _ b => some b
  | _ => none

end Route

/-! ### Commands -/

/-- The commands that need no session. -/
inductive EndpointCommand where
  | newSession (body : Json)
  | status

/-- How the command is sent. -/
def EndpointCommand.request : EndpointCommand → Request
  | .newSession body => ⟨.post, "/session", some body, "new session"⟩
  | .status => ⟨.get, "/status", none, "status"⟩

/-- The commands of a session. -/
inductive Command where
  | deleteSession
  | getTimeouts
  | setTimeouts (timeouts : Timeouts)
  | navigateTo (url : String)
  | getCurrentUrl
  | back
  | forward
  | refresh
  | getTitle
  | getWindowHandle
  | switchToWindow (handle : WindowHandle)
  | closeWindow
  | getWindowHandles
  | newWindow (kind : WindowKind)
  | getWindowRect
  | setWindowRect (rect : Rect)
  | maximizeWindow
  | minimizeWindow
  | fullscreenWindow
  | getPageSource
  | executeScript (script : String) (args : List Json)
  | executeAsyncScript (script : String) (args : List Json)
  | takeScreenshot
  | printPage (options : PrintOptions)
  | getAllCookies
  | getNamedCookie (name : String)
  | addCookie (cookie : Cookie)
  | deleteCookie (name : String)
  | deleteAllCookies
  | findElement (query : Locator.Query)
  | findElements (query : Locator.Query)
  | findElementFromElement (element : ElementId) (query : Locator.Query)
  | findElementsFromElement (element : ElementId) (query : Locator.Query)
  | getActiveElement
  | isElementSelected (element : ElementId)
  | isElementEnabled (element : ElementId)
  | getElementAttribute (element : ElementId) (name : String)
  | getElementProperty (element : ElementId) (name : String)
  | getElementCssValue (element : ElementId) (name : String)
  | getElementText (element : ElementId)
  | getElementTagName (element : ElementId)
  | getElementRect (element : ElementId)
  | getComputedLabel (element : ElementId)
  | takeElementScreenshot (element : ElementId)
  | elementClick (element : ElementId)
  | elementClear (element : ElementId)
  | elementSendKeys (element : ElementId) (text : String)

namespace Command

/-- The name of a command. -/
def name : Command → String
  | .deleteSession => "delete session"
  | .getTimeouts => "get timeouts"
  | .setTimeouts _ => "set timeouts"
  | .navigateTo _ => "navigate to"
  | .getCurrentUrl => "get current url"
  | .back => "back"
  | .forward => "forward"
  | .refresh => "refresh"
  | .getTitle => "get title"
  | .getWindowHandle => "get window handle"
  | .switchToWindow _ => "switch to window"
  | .closeWindow => "close window"
  | .getWindowHandles => "get window handles"
  | .newWindow _ => "new window"
  | .getWindowRect => "get window rect"
  | .setWindowRect _ => "set window rect"
  | .maximizeWindow => "maximize window"
  | .minimizeWindow => "minimize window"
  | .fullscreenWindow => "fullscreen window"
  | .getPageSource => "get page source"
  | .executeScript .. => "execute script"
  | .executeAsyncScript .. => "execute async script"
  | .takeScreenshot => "take screenshot"
  | .printPage _ => "print page"
  | .getAllCookies => "get all cookies"
  | .getNamedCookie _ => "get named cookie"
  | .addCookie _ => "add cookie"
  | .deleteCookie _ => "delete cookie"
  | .deleteAllCookies => "delete all cookies"
  | .findElement _ => "find element"
  | .findElements _ => "find elements"
  | .findElementFromElement .. => "find element from element"
  | .findElementsFromElement .. => "find elements from element"
  | .getActiveElement => "get active element"
  | .isElementSelected _ => "is element selected"
  | .isElementEnabled _ => "is element enabled"
  | .getElementAttribute .. => "get element attribute"
  | .getElementProperty .. => "get element property"
  | .getElementCssValue .. => "get element css value"
  | .getElementText _ => "get element text"
  | .getElementTagName _ => "get element tag name"
  | .getElementRect _ => "get element rect"
  | .getComputedLabel _ => "get computed label"
  | .takeElementScreenshot _ => "take element screenshot"
  | .elementClick _ => "element click"
  | .elementClear _ => "element clear"
  | .elementSendKeys .. => "element send keys"

/-- The body without members. -/
def emptyBody : Json := .object []

/-- The body of a script and its arguments. -/
def scriptBody (script : String) (args : List Json) : Json :=
  .ofMembers [("script", .string script), ("args", .array args)]

/-- The parts of the path to something of an element. -/
def ofElement (element : ElementId) (rest : List Part) : List Part :=
  .word "element" :: .given element.text :: rest

/-- How a command is sent. -/
def route : Command → Route
  | .deleteSession => .delete []
  | .getTimeouts => .get [.word "timeouts"]
  | .setTimeouts timeouts => .post [.word "timeouts"] timeouts.toJson
  | .navigateTo url => .post [.word "url"] (.ofMembers [("url", .string url)])
  | .getCurrentUrl => .get [.word "url"]
  | .back => .post [.word "back"] emptyBody
  | .forward => .post [.word "forward"] emptyBody
  | .refresh => .post [.word "refresh"] emptyBody
  | .getTitle => .get [.word "title"]
  | .getWindowHandle => .get [.word "window"]
  | .switchToWindow handle => .post [.word "window"] (.ofMembers [("handle", handle.toJson)])
  | .closeWindow => .delete [.word "window"]
  | .getWindowHandles => .get [.word "window", .word "handles"]
  | .newWindow kind => .post [.word "window", .word "new"] (.ofMembers [("type", kind.toJson)])
  | .getWindowRect => .get [.word "window", .word "rect"]
  | .setWindowRect rect => .post [.word "window", .word "rect"] rect.toJson
  | .maximizeWindow => .post [.word "window", .word "maximize"] emptyBody
  | .minimizeWindow => .post [.word "window", .word "minimize"] emptyBody
  | .fullscreenWindow => .post [.word "window", .word "fullscreen"] emptyBody
  | .getPageSource => .get [.word "source"]
  | .executeScript script args => .post [.word "execute", .word "sync"] (scriptBody script args)
  | .executeAsyncScript script args =>
    .post [.word "execute", .word "async"] (scriptBody script args)
  | .takeScreenshot => .get [.word "screenshot"]
  | .printPage options => .post [.word "print"] options.toJson
  | .getAllCookies => .get [.word "cookie"]
  | .getNamedCookie name => .get [.word "cookie", .given name]
  | .addCookie cookie => .post [.word "cookie"] (.ofMembers [("cookie", cookie.toJson)])
  | .deleteCookie name => .delete [.word "cookie", .given name]
  | .deleteAllCookies => .delete [.word "cookie"]
  | .findElement query => .post [.word "element"] query.toJson
  | .findElements query => .post [.word "elements"] query.toJson
  | .findElementFromElement element query =>
    .post (ofElement element [.word "element"]) query.toJson
  | .findElementsFromElement element query =>
    .post (ofElement element [.word "elements"]) query.toJson
  | .getActiveElement => .get [.word "element", .word "active"]
  | .isElementSelected element => .get (ofElement element [.word "selected"])
  | .isElementEnabled element => .get (ofElement element [.word "enabled"])
  | .getElementAttribute element name =>
    .get (ofElement element [.word "attribute", .given name])
  | .getElementProperty element name => .get (ofElement element [.word "property", .given name])
  | .getElementCssValue element name => .get (ofElement element [.word "css", .given name])
  | .getElementText element => .get (ofElement element [.word "text"])
  | .getElementTagName element => .get (ofElement element [.word "name"])
  | .getElementRect element => .get (ofElement element [.word "rect"])
  | .getComputedLabel element => .get (ofElement element [.word "computedlabel"])
  | .takeElementScreenshot element => .get (ofElement element [.word "screenshot"])
  | .elementClick element => .post (ofElement element [.word "click"]) emptyBody
  | .elementClear element => .post (ofElement element [.word "clear"]) emptyBody
  | .elementSendKeys element text =>
    .post (ofElement element [.word "value"]) (.ofMembers [("text", .string text)])

/-- The segments of the path of a command in a session. -/
def segments (c : Command) (session : SessionId) : List Part :=
  .word "session" :: .given session.text :: c.route.parts

/-- What is sent for a command in a session. -/
def request (c : Command) (session : SessionId) : Request :=
  ⟨c.route.method, pathOf (c.segments session), c.route.body, c.name⟩

end Command

end WebDriverClient
