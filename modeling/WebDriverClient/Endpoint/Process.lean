/-
**Processes of a driver.**

A driver is started with the host and the port at which it is to listen, and must announce itself in
time.  A driver that does not is killed.  If any port will do, another attempt is made then, three
attempts in all; a driver that cannot be started at all is not tried again.

Main definitions:

* `Machine` — where processes are started;
* `DriverProgram` — which driver is started, and how;
* `DriverProgram.attempt` — one attempt to start a driver;
* `DriverProgram.launch` — the attempts to start a driver.
-/

import WebDriverClient.Endpoint.Announcement
import WebDriverClient.Endpoint.Launcher

set_option autoImplicit false

namespace WebDriverClient

/-! ### Machines -/

/-- What comes of starting a program: it cannot be started, or it runs and its output cannot be read,
or this is read from it as long as it is waited for. -/
inductive Start where
  | refused (reason : String)
  | unreadable
  | reading (arrivals : List Arrival)
deriving DecidableEq, Repr

/-- The program runs. -/
def Start.isRunning : Start → Bool
  | refused _ => false
  | _ => true

/-- Where programs are started; the states of everything outside are of type `σ`. -/
structure Machine (σ : Type) where
  unusedPort : String → σ → Except Failure Nat × σ
  start : String → List String → σ → Start × σ

namespace Client

variable {σ : Type}

/-- Looks for a port of a host that is free. -/
def unusedPort (m : Machine σ) (host : String) : Client σ Nat := fun w =>
  let (port, remote) := m.unusedPort host w.remote
  ⟨port, [], { w with remote }⟩

/-- Starts a program and tells the number of its process. -/
def spawn (m : Machine σ) (binary : String) (args : List String) : Client σ (Nat × Start) :=
  fun w =>
    let (start, remote) := m.start binary args w.remote
    if start.isRunning then
      ⟨.ok (w.started, start), [.spawn w.started],
        { w with remote, started := w.started + 1, running := w.running ++ [w.started] }⟩
    else ⟨.ok (w.started, start), [], { w with remote }⟩

/-- Kills a process, unless it has been killed. -/
def kill (process : Nat) : Client σ Unit := fun w =>
  if process ∈ w.running then
    ⟨.ok (), [.kill process], { w with running := w.running.filter (· ≠ process) }⟩
  else ⟨.ok (), [], w⟩

end Client

/-! ### Starting a driver -/

/-- Which driver is started, and how. -/
structure DriverProgram where
  binary : String
  host : String
  /-- The port at which it is to listen, unless any will do. -/
  port : Option Nat
  args : List String
  startupTimeout : Duration
deriving DecidableEq, Repr

namespace DriverProgram

variable {σ : Type}

/-- The arguments of the driver. -/
def arguments (p : DriverProgram) (port : Nat) : List String :=
  ["--host", p.host, "--port", toString port] ++ p.args

/-- The launcher of a process. -/
def launcher (process : Nat) (url : Url) : Launcher σ := ⟨url, Client.kill process⟩

/-- Starts the driver once. -/
def attempt (p : DriverProgram) (m : Machine σ) (port : Nat) : Client σ (Launcher σ) := do
  let (process, start) ← Client.spawn m p.binary (p.arguments port)
  match start with
  | .refused reason => Client.fail (.processLaunchFailed reason)
  | .unreadable =>
    Client.kill process
    Client.fail (.connection "driver output is not captured")
  | .reading arrivals =>
    match Announcement.ofArrivals arrivals with
    | .heard url => return launcher process url
    | .exited =>
      Client.kill process
      Client.fail (.connection "driver exited before listening")
    | .silent =>
      Client.sleep p.startupTimeout.nanoseconds
      Client.kill process
      Client.fail (.connectionTimeout p.startupTimeout.milliseconds)

/-- Another attempt is made after this failure. -/
def triesAgainAfter : Failure → Bool
  | .processLaunchFailed _ => false
  | _ => true

/-- Starts the driver at a port that is free, in at most this many attempts; when none is left, the
failure of the last one is reported. -/
def retry (p : DriverProgram) (m : Machine σ) : Nat → Failure → Client σ (Launcher σ)
  | 0, last => Client.fail last
  | attempts + 1, _ => do
    let port ← Client.unusedPort m p.host
    match ← (p.attempt m port).attempt with
    | .ok launcher => return launcher
    | .error e => if triesAgainAfter e then p.retry m attempts e else Client.fail e

/-- How many attempts are made if any port will do. -/
def maxAttempts : Nat := 3

/-- Starts the driver. -/
def launch (p : DriverProgram) (m : Machine σ) : Client σ (Launcher σ) :=
  match p.port with
  | some port => p.attempt m port
  | none => p.retry m maxAttempts (.connection "driver was never started")

end DriverProgram

/-- The launcher of a process as it is shown in diagnostics. -/
def Launcher.display {σ : Type} (l : Launcher σ) : String :=
  "ProcessLauncher \x7b url: " ++ Text.quote l.base.text ++ ", .. \x7d"

end WebDriverClient
