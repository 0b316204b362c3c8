/-
**Drivers.**

A driver is a program that is started for each session, or one that runs anyway and is found at an
address.  It is described step by step and then checked: first where it comes from, then how long
things may take, then the options of the browser.

Main definitions:

* `DriverSettings` — the description of a driver;
* `Driver` — a description that has been checked;
* `DriverSettings.build` — checks a description;
* `Driver.launch` — starts a session.
-/

import WebDriverClient.Browsing.Session
import WebDriverClient.Endpoint.Process

set_option autoImplicit false

namespace WebDriverClient

/-! ### Settings -/

/-- The description of a driver. -/
structure DriverSettings where
  /-- The file of the driver that is started. -/
  binary : Option String := none
  /-- The address of the driver that runs anyway. -/
  attach : Option String := none
  host : String := "127.0.0.1"
  /-- The port at which it listens, unless any will do. -/
  port : Option Nat := none
  driverArgs : List String := []
  capabilities : Capabilities := .ofFirefox
  startupTimeout : Duration := .ofMilliseconds 30000
  requestTimeout : Duration := .ofMilliseconds 120000

/-- Where a driver is found. -/
inductive Endpoint where
  | spawn (program : DriverProgram)
  | attach (url : Url)
deriving DecidableEq, Repr

/-- A driver. -/
structure Driver where
  endpoint : Endpoint
  capabilities : Capabilities
  requestTimeout : Duration

namespace DriverSettings

/-- The address at which a driver listens if nothing else is said. -/
def localAddress : String := "http://127.0.0.1:4444"

/-- Sets the address of the driver to the one at which a driver listens if nothing else is said. -/
def attachLocally (s : DriverSettings) : DriverSettings := { s with attach := some localAddress }

/-- Sets the options of the browser. -/
def firefox (s : DriverSettings) (options : FirefoxOptions) : DriverSettings :=
  { s with capabilities := { s.capabilities with firefox := options } }

/-- Where the driver is found, when the file of a driver must be among those that exist. -/
def location (s : DriverSettings) (exists? : String → Bool) : Except Failure Endpoint :=
  match s.binary, s.attach with
  | some _, some _ => .error (.config "Use either .binary() or .attach(), not both.")
  | none, none =>
    .error (.config ("A driver is required. Use .binary() to spawn geckodriver or .attach() to use"
      ++ " a running one.\nExample: Driver::builder().binary(\"/usr/bin/geckodriver\")"))
  | some path, none =>
    if exists? path then
      .ok (.spawn ⟨path, s.host, s.port, s.driverArgs, s.startupTimeout⟩)
    else .error (.driverNotFound path)
  | none, some address =>
    match Url.parse address with
    | .ok url => .ok (.attach url)
    | .error e => .error (.url e)

/-- Checks that no time is zero. -/
def checkTimeouts (s : DriverSettings) : Except Failure Unit :=
  if s.startupTimeout.nanoseconds = 0 || s.requestTimeout.nanoseconds = 0 then
    .error (.config "Timeouts must be greater than zero")
  else .ok ()

/-- Checks a description. -/
def build (s : DriverSettings) (exists? : String → Bool) : Except Failure Driver := do
  let endpoint ← s.location exists?
  s.checkTimeouts
  s.capabilities.firefox.check exists?
  return ⟨endpoint, s.capabilities, s.requestTimeout⟩

end DriverSettings

namespace Driver

variable {σ : Type}

/-- The driver as it is shown in diagnostics. -/
def display (d : Driver) : String :=
  match d.endpoint with
  | .spawn program => "Driver \x7b binary: " ++ Text.quote program.binary ++ ", .. \x7d"
  | .attach url => "Driver \x7b attach: " ++ Text.quote url.text ++ ", .. \x7d"

/-- Starts the driver, if it is one that is started. -/
def start (d : Driver) (m : Machine σ) : Client σ (Launcher σ) :=
  match d.endpoint with
  | .spawn program => program.launch m
  | .attach url => return .attached url

/-- Starts a session.  What is to carry its requests may not be had; then the driver is stopped
as it is if there is no session. -/
def launch (d : Driver) (m : Machine σ) (connect : Url → Duration → Except Failure (Transport σ))
    (context : CallSite) : Client σ (Session σ) := do
  let launcher ← d.start m
  match connect launcher.base d.requestTimeout with
  | .ok transport => Session.create transport launcher d.capabilities context
  | .error e =>
    let _ ← launcher.halt.attempt
    Client.fail e

end Driver

end WebDriverClient
