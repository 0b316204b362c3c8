/-
**Capabilities.**

What a new session must be capable of.  A session is asked for with the capabilities that are set,
and with the options of the browser if any is set.

Main definitions:

* `PageLoadStrategy` — how long a navigation waits for the page;
* `Capabilities` — the capabilities, and `Capabilities.toJson`, the body that asks for them.
-/

import WebDriverClient.Endpoint.FirefoxOptions
import WebDriverClient.Wire.Values

set_option autoImplicit false

namespace WebDriverClient

/-- How long a navigation waits for the page. -/
inductive PageLoadStrategy where
  /-- Until all that the page needs has been loaded. -/
  | normal
  /-- Until the document has been parsed. -/
  | eager
  | none
deriving DecidableEq, Repr

namespace PageLoadStrategy

/-- The strategies by their names on the wire. -/
def variants : List (String × PageLoadStrategy) :=
  [("normal", .normal), ("eager", .eager), ("none", .none)]

/-- The name of a strategy on the wire. -/
def text : PageLoadStrategy → String
  | normal => "normal"
  | eager => "eager"
  | none => "none"

end PageLoadStrategy

/-- What a new session must be capable of. -/
structure Capabilities where
  browserName : Option String := none
  browserVersion : Option String := none
  platformName : Option String := none
  pageLoadStrategy : Option PageLoadStrategy := none
  acceptInsecureCerts : Option Bool := none
  timeouts : Option Timeouts := none
  firefox : FirefoxOptions := {}
deriving Inhabited

namespace Capabilities

/-- The capabilities of a session of Firefox. -/
def ofFirefox : Capabilities := { browserName := some "firefox" }

/-- The options of the browser as they are sent, if any is set. -/
def firefoxMember (o : FirefoxOptions) : Option Json :=
  if o.members.isEmpty then none else some o.toJson

/-- The capabilities that are set. -/
def required (c : Capabilities) : Json :=
  presentMembers [("browserName", c.browserName.map .string),
    ("browserVersion", c.browserVersion.map .string),
    ("platformName", c.platformName.map .string),
    ("pageLoadStrategy", c.pageLoadStrategy.map fun s => .string s.text),
    ("acceptInsecureCerts", c.acceptInsecureCerts.map .bool),
    ("timeouts", c.timeouts.map Timeouts.toJson),
    ("moz:firefoxOptions", firefoxMember c.firefox)]

/-- The body that asks for a session with these capabilities. -/
def toJson (c : Capabilities) : Json :=
  .ofMembers [("capabilities", .ofMembers [("alwaysMatch", c.required)])]

end Capabilities

end WebDriverClient
