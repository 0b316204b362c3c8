/-
**Conversations.**

A conversation is a session with the windows and elements that its operations have delivered, which
are numbered in that order.  An operation names the thing that it is done to by its number.

Main definitions:

* `Operation` — what can be done to a session, a window or an element;
* `Answer` — what an operation delivers;
* `Conversation` — a session and what has been delivered;
* `Conversation.perform` — does an operation;
* `Conversation.converse` — does operations one after the other.
-/

import WebDriverClient.Browsing.Condition

set_option autoImplicit false

namespace WebDriverClient

/-! ### Operations -/

/-- What can be done to a session. -/
inductive SessionOperation where
  | status
  | timeouts
  | setTimeouts (timeouts : Timeouts)
  | navigate (url : String)
  | url
  | title
  | back
  | forward
  | refresh
  | window
  | windows
  | newWindow (kind : WindowKind)
  | close

/-- An argument of a script. -/
inductive Argument where
  | value (v : Json)
  | element (number : Nat)

/-- What can be done to a window. -/
inductive WindowOperation where
  | focus
  | close
  | rect
  | setRect (rect : Rect)
  | maximize
  | minimize
  | fullscreen
  | navigate (url : String)
  | url
  | title
  | back
  | forward
  | refresh
  | pageSource
  | execute (source : String) (args : List Argument)
  | executeAsync (source : String) (args : List Argument)
  | readyState
  | findElement (locator : Locator)
  | findElements (locator : Locator)
  | activeElement
  | screenshot
  | print (options : PrintOptions)
  | cookies
  | cookie (name : String)
  | addCookie (cookie : Cookie)
  | deleteCookie (name : String)
  | deleteAllCookies
  | waitForElement (locator : Locator) (condition : ElementCondition) (options : WaitOptions)
  | waitForDocument (condition : DocumentCondition) (options : WaitOptions)

/-- What can be done to an element. -/
inductive ElementOperation where
  | findElement (locator : Locator)
  | findElements (locator : Locator)
  | children
  | click
  | clear
  | write (text : String)
  | writeEnding (text : String) (terminator : Option Key)
  | press (key : Key)
  | pressAll (keys : List Key)
  | text
  | tagName
  | rect
  | computedLabel
  | attributeOf (name : String)
  | property (name : String)
  | cssValue (name : String)
  | isSelected
  | isEnabled
  | screenshot

/-- What can be done, and to what. -/
inductive Operation where
  | session (operation : SessionOperation)
  | window (number : Nat) (operation : WindowOperation)
  | element (number : Nat) (operation : ElementOperation)

/-! ### Answers -/

/-- What an operation delivers. -/
inductive Answer (σ : Type) where
  | done
  | text (s : String)
  | optionalText (s : Option String)
  | flag (b : Bool)
  | value (v : Json)
  | bytes (bs : List UInt8)
  | status (s : Status)
  | timeouts (t : Timeouts)
  | rect (r : Rect)
  | readyState (s : ReadyState)
  | cookie (c : Cookie)
  | cookies (cs : List Cookie)
  | window (w : Window σ)
  | windows (ws : List (Window σ))
  | element (e : Element σ)
  | elements (es : List (Element σ))

variable {σ : Type}

/-- The windows of an answer. -/
def Answer.newWindows : Answer σ → List (Window σ)
  | window w => [w]
  | windows ws => ws
  | _ => []

/-- The elements of an answer. -/
def Answer.newElements : Answer σ → List (Element σ)
  | element e => [e]
  | elements es => es
  | _ => []

/-! ### Doing an operation -/

/-- Does something to a session. -/
def SessionOperation.perform (context : CallSite) (s : Session σ) :
    SessionOperation → Client σ (Answer σ)
  | status => .status <$> s.status
  | timeouts => .timeouts <$> s.timeouts
  | setTimeouts t => (fun _ => .done) <$> s.setTimeouts context t
  | navigate u => (fun _ => .done) <$> s.navigate context u
  | url => .text <$> s.url
  | title => .text <$> s.title
  | back => (fun _ => .done) <$> s.back context
  | forward => (fun _ => .done) <$> s.forward context
  | refresh => (fun _ => .done) <$> s.refresh context
  | window => .window <$> s.window context
  | windows => .windows <$> s.windows context
  | newWindow kind => .window <$> s.newWindow context kind
  | close => (fun _ => .done) <$> s.close context

/-- The value of an argument, if its element is there. -/
def Argument.value? (elements : List (Element σ)) : Argument → Option Json
  | value v => some v
  | element number => elements[number]?.map fun e => e.id.reference

/-- The script with these arguments, if their elements are there. -/
def scriptOf? (elements : List (Element σ)) (source : String) (args : List Argument) :
    Option Script :=
  (args.mapM (Argument.value? elements)).map (Script.mk source)

/-- Does something to a window, if the elements that it needs are there. -/
def WindowOperation.perform (context : CallSite) (elements : List (Element σ)) (w : Window σ) :
    WindowOperation → Option (Client σ (Answer σ))
  | focus => some ((fun _ => .done) <$> w.focus context)
  | close => some ((fun _ => .done) <$> w.close context)
  | rect => some (.rect <$> w.rect)
  | setRect r => some (.rect <$> w.setRect context r)
  | maximize => some (.rect <$> w.maximize context)
  | minimize => some (.rect <$> w.minimize context)
  | fullscreen => some (.rect <$> w.fullscreen context)
  | navigate u => some ((fun _ => .done) <$> w.navigate context u)
  | url => some (.text <$> w.url)
  | title => some (.text <$> w.title)
  | back => some ((fun _ => .done) <$> w.back context)
  | forward => some ((fun _ => .done) <$> w.forward context)
  | refresh => some ((fun _ => .done) <$> w.refresh context)
  | pageSource => some (.text <$> w.pageSource)
  | execute source args =>
    (scriptOf? elements source args).map fun script => .value <$> w.execute context script
  | executeAsync source args =>
    (scriptOf? elements source args).map fun script => .value <$> w.executeAsync context script
  | readyState => some (.readyState <$> w.readyState)
  | findElement locator => some (.element <$> w.findElement context locator)
  | findElements locator => some (.elements <$> w.findElements context locator)
  | activeElement => some (.element <$> w.activeElement context)
  | screenshot => some (.bytes <$> w.screenshot context)
  | print options => some (.bytes <$> w.print context options)
  | cookies => some (.cookies <$> w.cookies)
  | cookie name => some (.cookie <$> w.cookie context name)
  | addCookie c => some ((fun _ => .done) <$> w.addCookie context c)
  | deleteCookie name => some ((fun _ => .done) <$> w.deleteCookie context name)
  | deleteAllCookies => some ((fun _ => .done) <$> w.deleteAllCookies context)
  | waitForElement locator condition options =>
    some (.element <$> w.waitForElement context locator condition options)
  | waitForDocument condition options =>
    some ((fun _ => .done) <$> w.waitForDocument context condition options)

/-- Does something to an element. -/
def ElementOperation.perform (context : CallSite) (e : Element σ) :
    ElementOperation → Client σ (Answer σ)
  | findElement locator => .element <$> e.findElement context locator
  | findElements locator => .elements <$> e.findElements context locator
  | children => .elements <$> e.children context
  | click => (fun _ => .done) <$> e.click context
  | clear => (fun _ => .done) <$> e.clear context
  | write s => (fun _ => .done) <$> e.write context s
  | writeEnding s terminator => (fun _ => .done) <$> e.writeEnding context s terminator
  | press key => (fun _ => .done) <$> e.press context key
  | pressAll keys => (fun _ => .done) <$> e.pressAll context keys
  | text => .text <$> e.text
  | tagName => .text <$> e.tagName
  | rect => .rect <$> e.rect
  | computedLabel => .text <$> e.computedLabel
  | attributeOf name => .optionalText <$> e.attributeOf name
  | property name => .value <$> e.property name
  | cssValue name => .text <$> e.cssValue name
  | isSelected => .flag <$> e.isSelected
  | isEnabled => .flag <$> e.isEnabled
  | screenshot => .bytes <$> e.screenshot context

/-! ### Conversations -/

/-- A session and what its operations have delivered. -/
structure Conversation (σ : Type) where
  session : Session σ
  /-- The windows in the order in which they were delivered. -/
  windows : List (Window σ) := []
  /-- The elements in the order in which they were delivered. -/
  elements : List (Element σ) := []

namespace Conversation

/-- Does an operation, if what it is done to has been delivered. -/
def perform (context : CallSite) (c : Conversation σ) : Operation → Option (Client σ (Answer σ))
  | .session operation => some (operation.perform context c.session)
  | .window number operation =>
    c.windows[number]?.bind fun w => operation.perform context c.elements w
  | .element number operation => c.elements[number]?.map fun e => operation.perform context e

/-- Keeps what an answer delivers. -/
def keep (c : Conversation σ) (a : Answer σ) : Conversation σ :=
  { c with
    windows := c.windows ++ a.newWindows
    elements := c.elements ++ a.newElements }

/-- Does an operation in a world and keeps what it delivers. -/
def step (context : CallSite) (c : Conversation σ) (operation : Operation) (w : World σ) :
    Option (Run σ (Answer σ)) × Conversation σ :=
  match c.perform context operation with
  | none => (none, c)
  | some x =>
    let r := x.run w
    (some r, match r.outcome with
      | .ok a => c.keep a
      | .error _ => c)

/-- The world after an operation. -/
def worldAfter (w : World σ) (r : Option (Run σ (Answer σ))) : World σ := (r.map Run.world).getD w

/-- Does operations one after the other. -/
def converse (context : CallSite) :
    Conversation σ → List Operation → World σ → List (Option (Run σ (Answer σ)))
  | _, [], _ => []
  | c, operation :: rest, w =>
    let (r, c') := c.step context operation w
    r :: converse context c' rest (worldAfter w r)

/-- What happens while operations are done one after the other. -/
def trace (runs : List (Option (Run σ (Answer σ)))) : List Event :=
  runs.flatMap fun r => r.elim [] Run.trace

end Conversation

end WebDriverClient
