/-
**Identifiers of remote things.**

The remote end names its sessions, windows and elements by texts that mean nothing to the client.
Each kind has a type of its own.  A thing is its identifier together with the place in the caller's
code where it was obtained, and the place does not count when two things are compared.

Main definitions:

* `SessionId`, `WindowHandle`, `ElementId` — the identifiers;
* `CallSite` — a place in the caller's code, if it is known;
* `Identified` — an identifier and where it was obtained.
-/

import WebDriverClient.Json.Decoder

set_option autoImplicit false

namespace WebDriverClient

/-- The identifier of a session. -/
structure SessionId where
  text : String
deriving DecidableEq, Repr, Inhabited

/-- The identifier of a window. -/
structure WindowHandle where
  text : String
deriving DecidableEq, Repr, Inhabited

/-- The identifier of an element. -/
structure ElementId where
  text : String
deriving DecidableEq, Repr, Inhabited

/-- Identifiers are ordered as their texts are. -/
instance : LE SessionId := ⟨fun a b => a.text ≤ b.text⟩

instance (a b : SessionId) : Decidable (a ≤ b) := inferInstanceAs (Decidable (a.text ≤ b.text))

/-- An identifier is a text on the wire. -/
def SessionId.decode : Json.Decoder SessionId := fun v => (Json.Decoder.string v).map SessionId.mk

/-- A handle is a text on the wire. -/
def WindowHandle.decode : Json.Decoder WindowHandle :=
  fun v => (Json.Decoder.string v).map WindowHandle.mk

/-- An identifier is a text on the wire. -/
def ElementId.decode : Json.Decoder ElementId := fun v => (Json.Decoder.string v).map ElementId.mk

/-- The identifier as it is sent. -/
def SessionId.toJson (id : SessionId) : Json := .string id.text

/-- The handle as it is sent. -/
def WindowHandle.toJson (handle : WindowHandle) : Json := .string handle.text

/-- The identifier as it is sent. -/
def ElementId.toJson (id : ElementId) : Json := .string id.text

/-- The identifier as it is shown in diagnostics. -/
def SessionId.display (id : SessionId) : String := "SessionId(" ++ Text.quote id.text ++ ")"

/-- The handle as it is shown in diagnostics. -/
def WindowHandle.display (handle : WindowHandle) : String :=
  "WindowHandle(" ++ Text.quote handle.text ++ ")"

/-- The identifier as it is shown in diagnostics. -/
def ElementId.display (id : ElementId) : String := "ElementId(" ++ Text.quote id.text ++ ")"

/-- Where in the caller's code something was obtained or asked for. -/
inductive CallSite where
  | known (place : String)
  | unavailable
deriving DecidableEq, Repr

/-- The place as it is shown in messages. -/
def CallSite.text : CallSite → String
  | .known place => place
  | .unavailable => "unavailable"

/-- An identifier and where it was obtained. -/
structure Identified (ι : Type) where
  id : ι
  /-- Where it was obtained. -/
  creation : CallSite

/-- Only the identifiers are compared. -/
instance {ι : Type} [BEq ι] : BEq (Identified ι) := ⟨fun a b => a.id == b.id⟩

end WebDriverClient
