/-
**Options of Firefox.**

How the browser is started: from which file, with which arguments and with which preferences.  The
arguments that stand for an option come in a fixed order, and those that are given as they are come
last.

Main definitions:

* `FirefoxOptions` — the options;
* `FirefoxOptions.args` — the arguments of the command line;
* `FirefoxOptions.toJson` — the options as they are sent;
* `FirefoxOptions.check` — whether the browser could be started with them.
-/

import WebDriverClient.Failure

set_option autoImplicit false

namespace WebDriverClient

/-- The profile that the browser uses. -/
inductive Profile where
  | directory (path : String)
  | named (name : String)
deriving DecidableEq, Repr

/-- The arguments that choose a profile. -/
def Profile.args : Profile → List String
  | directory path => ["-profile", path]
  | named name => ["-P", name]

/-- The size of a window in pixels. -/
structure WindowSize where
  width : UInt32
  height : UInt32
deriving DecidableEq, Repr

/-- The arguments that choose a size. -/
def WindowSize.args (size : WindowSize) : List String :=
  ["--window-size", s!"{size.width},{size.height}"]

/-- How the browser is started. -/
structure FirefoxOptions where
  binary : Option String := none
  headless : Bool := false
  windowSize : Option WindowSize := none
  /-- A browser that is already running is left alone. -/
  newInstance : Bool := false
  foreground : Bool := false
  privateSession : Bool := false
  privateWindow : Bool := false
  profile : Option Profile := none
  newTab : Option String := none
  newWindow : Option String := none
  /-- The preferences, sorted by name. -/
  prefs : List (String × Json) := []
  extraArgs : List String := []
deriving Inhabited

namespace FirefoxOptions

/-- The options of a browser that shows no window. -/
def withoutWindow : FirefoxOptions := { headless := true }

/-- Sets a preference. -/
def pref (o : FirefoxOptions) (name : String) (value : Json) : FirefoxOptions :=
  { o with prefs := Json.insert name value o.prefs }

/-- Adds arguments. -/
def withArgs (o : FirefoxOptions) (args : List String) : FirefoxOptions :=
  { o with extraArgs := o.extraArgs ++ args }

/-- A word that is an argument if a switch is on. -/
def switch (word : String) (on : Bool) : List String := if on then [word] else []

/-- A word and an address that are arguments if there is an address. -/
def opening (word : String) (address : Option String) : List String :=
  address.elim [] fun a => [word, a]

/-- The arguments of the command line. -/
def args (o : FirefoxOptions) : List String :=
  switch "-new-instance" o.newInstance
    ++ o.profile.elim [] Profile.args
    ++ switch "-foreground" o.foreground
    ++ switch "-headless" o.headless
    ++ o.windowSize.elim [] WindowSize.args
    ++ opening "-new-tab" o.newTab
    ++ opening "-new-window" o.newWindow
    ++ switch "-private" o.privateSession
    ++ switch "-private-window" o.privateWindow
    ++ o.extraArgs

/-- The options as members; what is not set is left out. -/
def members (o : FirefoxOptions) : List (String × Json) :=
  o.binary.elim [] (fun path => [("binary", .string path)])
    ++ (if o.args.isEmpty then [] else [("args", .array (o.args.map .string))])
    ++ (if o.prefs.isEmpty then [] else [("prefs", .object o.prefs)])

/-- The options as they are sent. -/
def toJson (o : FirefoxOptions) : Json := .ofMembers o.members

/-- The browser could be started: the window is not empty, and the file is among those that
exist. -/
def check (o : FirefoxOptions) (exists? : String → Bool) : Except Failure Unit := do
  if o.windowSize.any fun size => size.width = 0 || size.height = 0 then
    throw (.config "Window dimensions must be greater than zero")
  match o.binary with
  | some path => unless exists? path do throw (.config ("Firefox binary not found at " ++ path))
  | none => return

end FirefoxOptions

end WebDriverClient
