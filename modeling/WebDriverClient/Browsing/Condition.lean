/-
**Conditions in a window.**

A wait for an element looks for it at every check, and asks whether it is enabled if that is what is
waited for.  When the time is over, the source of the page is fetched for the report; if that fails,
the report goes without it.

Main definitions:

* `Window.probeElement`, `Window.probeDocument` — one check of a condition;
* `Window.reportTimeout` — the report of a wait whose time is over;
* `Window.waitForElement`, `Window.waitForDocument` — the waits.
-/

import WebDriverClient.Browsing.Element

set_option autoImplicit false

namespace WebDriverClient.Window

variable {σ : Type}

/-! ### Checks -/

/-- Checks whether the first element that a query selects meets a condition. -/
def probeElement (w : Window σ) (context : CallSite) (query : Locator.Query)
    (condition : ElementCondition) : Client σ (Poll (Element σ)) := do
  let element ← w.findByQuery context query
  match condition with
  | .presence => return .ready element
  | .enabled => if ← element.isEnabledFor context then return .ready element else return .pending

/-- Checks whether the document meets a condition. -/
def probeDocument (w : Window σ) (context : CallSite) (condition : DocumentCondition) :
    Client σ (Poll Unit) := do
  let state ← w.readyStateFor context
  return if condition.holds state then .ready () else .pending

/-! ### Waits -/

/-- Reports that the time is over. -/
def reportTimeout {α : Type} (w : Window σ) (context : CallSite) (condition : String)
    (query : Option Locator.Query) (options : WaitOptions) : Client σ α := do
  let source ← (w.ask .getPageSource context Json.Decoder.string).attempt
  Client.fail (.waitTimeout {
    condition
    duration := options.timeout
    query
    snapshot := source.toOption
    context })

/-- Waits for an element. -/
def waitForElement (w : Window σ) (context : CallSite) (locator : Locator)
    (condition : ElementCondition) (options : WaitOptions) : Client σ (Element σ) := do
  let query ← Client.resolve locator
  match ← waitUntil (w.probeElement context query condition) options with
  | some element => return element
  | none => w.reportTimeout context condition.text (some query) options

/-- Waits for the document. -/
def waitForDocument (w : Window σ) (context : CallSite) (condition : DocumentCondition)
    (options : WaitOptions) : Client σ Unit := do
  match ← waitUntil (w.probeDocument context condition) options with
  | some _ => return ()
  | none => w.reportTimeout context condition.text none options

end WebDriverClient.Window
