/-
**Scripts.**

A script is a text that runs in the page, together with the arguments that it is given.

Main definitions:

* `Script` — the scripts, with `Script.arg` and `Script.element` to add arguments;
* `Script.command`, `Script.asyncCommand` — the commands that run a script.
-/

import WebDriverClient.Wire.Command

set_option autoImplicit false

namespace WebDriverClient

/-- A script and its arguments. -/
structure Script where
  source : String
  args : List Json := []

namespace Script

/-- Adds an argument. -/
def arg (s : Script) (value : Json) : Script := { s with args := s.args ++ [value] }

/-- Adds a reference to an element as an argument. -/
def element (s : Script) (id : ElementId) : Script := s.arg id.reference

/-- Two scripts are the same if their texts are and their arguments are alike. -/
instance : BEq Script := ⟨fun a b => a.source == b.source && Json.alikeItems a.args b.args⟩

/-- The command that runs the script. -/
def command (s : Script) : Command := .executeScript s.source s.args

/-- The command that runs the script until it calls back. -/
def asyncCommand (s : Script) : Command := .executeAsyncScript s.source s.args

end Script

end WebDriverClient
