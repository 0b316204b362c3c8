/-
**Elements.**

An element belongs to the window in which the search for it began, and what is found below it
belongs to the same window.  A locator without a query is refused before anything is sent.  Below an
element a query is anchored at the element; in a window it is sent as it is.

Main definitions:

* `Window.findElement`, `Window.findElements`, `Window.activeElement` — the elements of a window;
* the operations on elements, from `Element.findElement` to `Element.screenshot`.
-/

import WebDriverClient.Browsing.Key
import WebDriverClient.Browsing.Window
import WebDriverClient.Locator.Basic

set_option autoImplicit false

namespace WebDriverClient

variable {σ : Type}

/-- The query of a locator, if it has one. -/
def Client.resolve (locator : Locator) : Client σ Locator.Query :=
  Client.ofExcept (locator.resolve.mapError .locator)

/-! ### Elements of a window -/

namespace Window

/-- The element of an identifier. -/
def elementOf (w : Window σ) (context : CallSite) (id : ElementId) : Element σ :=
  ⟨⟨id, context⟩, w⟩

/-- Finds the first element that a query selects. -/
def findByQuery (w : Window σ) (context : CallSite) (query : Locator.Query) :
    Client σ (Element σ) := do
  return w.elementOf context (← w.ask (.findElement query) context ElementId.decodeReference)

/-- Finds the first element. -/
def findElement (w : Window σ) (context : CallSite) (locator : Locator) :
    Client σ (Element σ) := do
  w.findByQuery context (← Client.resolve locator)

/-- Finds all elements. -/
def findElements (w : Window σ) (context : CallSite) (locator : Locator) :
    Client σ (List (Element σ)) := do
  let query ← Client.resolve locator
  let found ← w.ask (.findElements query) context (Json.Decoder.list ElementId.decodeReference)
  return found.map (w.elementOf context)

/-- The element that has the focus. -/
def activeElement (w : Window σ) (context : CallSite) : Client σ (Element σ) := do
  return w.elementOf context (← w.ask .getActiveElement context ElementId.decodeReference)

end Window

namespace Element

/-! ### Requests -/

/-- The identifier of an element. -/
def id (e : Element σ) : ElementId := e.identity.id

/-- The session of an element. -/
def session (e : Element σ) : Session σ := e.window.session

/-- The element as it is shown in diagnostics. -/
def display (e : Element σ) : String :=
  "Element \x7b id: " ++ e.id.display ++ ", window: " ++ e.window.handle.display ++ ", .. \x7d"

/-- Requests on behalf of the element. -/
def call (e : Element σ) (context : CallSite) : Call :=
  ⟨.element e.session.id e.window.handle e.id, context⟩

/-- Does something on behalf of the element and reads the reply. -/
def ask {α : Type} (e : Element σ) (command : Command) (context : CallSite)
    (decoder : Json.Decoder α) : Client σ α := do
  Client.decode decoder (← e.window.send command (e.call context))

/-- Does something on behalf of the element; what the reply says does not matter. -/
def tell (e : Element σ) (command : Command) (context : CallSite) : Client σ Unit := do
  let _ ← e.window.send command (e.call context)

/-! ### Search -/

/-- Finds the first element below this one. -/
def findElement (e : Element σ) (context : CallSite) (locator : Locator) :
    Client σ (Element σ) := do
  let query ← Client.resolve locator
  let found ← e.ask (.findElementFromElement e.id query.anchored) context
    ElementId.decodeReference
  return e.window.elementOf context found

/-- All elements that a query selects as it is. -/
def findAllByQuery (e : Element σ) (context : CallSite) (query : Locator.Query) :
    Client σ (List (Element σ)) := do
  let found ← e.ask (.findElementsFromElement e.id query) context
    (Json.Decoder.list ElementId.decodeReference)
  return found.map (e.window.elementOf context)

/-- Finds all elements below this one. -/
def findElements (e : Element σ) (context : CallSite) (locator : Locator) :
    Client σ (List (Element σ)) := do
  e.findAllByQuery context (← Client.resolve locator).anchored

/-- The query of the elements just below another. -/
def childrenQuery : Locator.Query := ⟨.xpath, "./*"⟩

/-- The elements just below this one. -/
def children (e : Element σ) (context : CallSite) : Client σ (List (Element σ)) :=
  e.findAllByQuery context childrenQuery

/-! ### Actions -/

/-- Clicks the element. -/
def click (e : Element σ) (context : CallSite) : Client σ Unit :=
  e.tell (.elementClick e.id) context

/-- Clears the element. -/
def clear (e : Element σ) (context : CallSite) : Client σ Unit :=
  e.tell (.elementClear e.id) context

/-- Types a text. -/
def sendKeys (e : Element σ) (context : CallSite) (text : String) : Client σ Unit :=
  e.tell (.elementSendKeys e.id text) context

/-- Types a text, and then perhaps a key. -/
def writeEnding (e : Element σ) (context : CallSite) (text : String) (terminator : Option Key) :
    Client σ Unit :=
  e.sendKeys context (text ++ Key.text terminator.toList)

/-- Types a text, and then the key Enter. -/
def write (e : Element σ) (context : CallSite) (text : String) : Client σ Unit :=
  e.writeEnding context text (some .enter)

/-- Presses keys one after the other. -/
def pressAll (e : Element σ) (context : CallSite) (keys : List Key) : Client σ Unit :=
  e.sendKeys context (Key.text keys)

/-- Presses a key. -/
def press (e : Element σ) (context : CallSite) (key : Key) : Client σ Unit :=
  e.pressAll context [key]

/-! ### Properties -/

/-- The visible text. -/
def text (e : Element σ) : Client σ String :=
  e.ask (.getElementText e.id) .unavailable Json.Decoder.string

/-- The tag. -/
def tagName (e : Element σ) : Client σ String :=
  e.ask (.getElementTagName e.id) .unavailable Json.Decoder.string

/-- The position and size. -/
def rect (e : Element σ) : Client σ Rect :=
  e.ask (.getElementRect e.id) .unavailable Rect.decode

/-- The accessible name. -/
def computedLabel (e : Element σ) : Client σ String :=
  e.ask (.getComputedLabel e.id) .unavailable Json.Decoder.string

/-- The attribute of a name, if the element has it. -/
def attributeOf (e : Element σ) (name : String) : Client σ (Option String) :=
  e.ask (.getElementAttribute e.id name) .unavailable (Json.Decoder.option Json.Decoder.string)

/-- The property of a name. -/
def property (e : Element σ) (name : String) : Client σ Json :=
  e.ask (.getElementProperty e.id name) .unavailable Json.Decoder.any

/-- The computed style of a name. -/
def cssValue (e : Element σ) (name : String) : Client σ String :=
  e.ask (.getElementCssValue e.id name) .unavailable Json.Decoder.string

/-- Whether the element is selected. -/
def isSelected (e : Element σ) : Client σ Bool :=
  e.ask (.isElementSelected e.id) .unavailable Json.Decoder.boolean

/-- Whether the element is enabled, asked for at some place. -/
def isEnabledFor (e : Element σ) (context : CallSite) : Client σ Bool :=
  e.ask (.isElementEnabled e.id) context Json.Decoder.boolean

/-- Whether the element is enabled. -/
def isEnabled (e : Element σ) : Client σ Bool := e.isEnabledFor .unavailable

/-- A picture of the element. -/
def screenshot (e : Element σ) (context : CallSite) : Client σ (List UInt8) := do
  Client.bytes (← e.ask (.takeElementScreenshot e.id) context Json.Decoder.string)

end Element

end WebDriverClient
