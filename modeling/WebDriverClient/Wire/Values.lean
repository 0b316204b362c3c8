/-
**Values on the wire.**

The records that commands send and replies bring, with their encoders and decoders.  Absent fields
are left out when a record is sent; when one is read, a field that is `null` counts as absent.

Main definitions:

* `Rect`, `Timeouts`, `Status`, `NewWindow`, `Cookie`, `NewSession` and the enumerations
  `WindowKind`, `ReadyState`, `SameSite` — what replies bring;
* `PrintOptions` — the parameters of printing;
* `webElementIdentifier` — the key under which an element is referred to.
-/

import WebDriverClient.Wire.Identifier

set_option autoImplicit false

namespace WebDriverClient

open Json (Decoder Fields)

/-- Members that are present. -/
def presentMembers (members : List (String × Option Json)) : Json :=
  .ofMembers (members.filterMap fun m => m.2.map (m.1, ·))

/-! ### Elements -/

/-- The key under which an element is referred to. -/
def webElementIdentifier : String := "element-6066-11e4-a52e-4f735466cecf"

/-- The reference to an element, as a reply brings it and as a script takes it. -/
def ElementId.reference (id : ElementId) : Json := .ofMembers [(webElementIdentifier, id.toJson)]

/-- Reads the reference to an element. -/
def ElementId.decodeReference : Decoder ElementId :=
  Fields.decode "ElementRef" (Fields.required webElementIdentifier ElementId.decode)

/-! ### Geometry -/

/-- A position and a size in pixels. -/
structure Rect where
  x : Double
  y : Double
  width : Double
  height : Double
deriving DecidableEq

namespace Rect

/-- The record as it is sent. -/
def toJson (r : Rect) : Json :=
  .ofMembers [("x", .double r.x), ("y", .double r.y), ("width", .double r.width),
    ("height", .double r.height)]

/-- Reads the record. -/
def decode : Decoder Rect :=
  Fields.decode "Rect" (Rect.mk <$> Fields.required "x" Decoder.double
    <*> Fields.required "y" Decoder.double <*> Fields.required "width" Decoder.double
    <*> Fields.required "height" Decoder.double)

end Rect

/-! ### Timeouts -/

/-- The timeouts of a session in milliseconds. -/
structure Timeouts where
  script : Option UInt64 := none
  pageLoad : Option UInt64 := none
  implicit : Option UInt64 := none
deriving DecidableEq, Repr

namespace Timeouts

/-- The record as it is sent. -/
def toJson (t : Timeouts) : Json :=
  presentMembers [("script", t.script.map fun n => .nat n.toNat),
    ("pageLoad", t.pageLoad.map fun n => .nat n.toNat),
    ("implicit", t.implicit.map fun n => .nat n.toNat)]

/-- Reads the record. -/
def decode : Decoder Timeouts :=
  Fields.decode "Timeouts" (Timeouts.mk <$> Fields.optional "script" Decoder.natural
    <*> Fields.optional "pageLoad" Decoder.natural <*> Fields.optional "implicit" Decoder.natural)

end Timeouts

/-! ### Sessions -/

/-- Whether the remote end can create sessions. -/
structure Status where
  ready : Bool
  message : String
deriving DecidableEq, Repr

/-- Reads the record. -/
def Status.decode : Decoder Status :=
  Fields.decode "Status" (Status.mk <$> Fields.required "ready" Decoder.boolean
    <*> Fields.withDefault "message" Decoder.string "")

/-- A session that has been created. -/
structure NewSession where
  sessionId : String
  capabilities : Json

/-- Reads the record. -/
def NewSession.decode : Decoder NewSession :=
  Fields.decode "NewSession" (NewSession.mk <$> Fields.required "sessionId" Decoder.string
    <*> Fields.withDefault "capabilities" Decoder.any .null)

/-! ### Windows and documents -/

/-- The kinds of top-level windows. -/
inductive WindowKind where
  | tab
  | window
deriving DecidableEq, Repr

namespace WindowKind

/-- The kinds by their names on the wire. -/
def variants : List (String × WindowKind) := [("tab", .tab), ("window", .window)]

/-- The name of a kind on the wire. -/
def text : WindowKind → String
  | .tab => "tab"
  | .window => "window"

/-- The name of a kind in diagnostics. -/
def label : WindowKind → String
  | .tab => "Tab"
  | .window => "Window"

/-- The kind as it is sent. -/
def toJson (k : WindowKind) : Json := .string k.text

/-- Reads a kind. -/
def decode : Decoder WindowKind := Decoder.variant variants

end WindowKind

/-- A window that has been opened. -/
structure NewWindow where
  handle : WindowHandle
  kind : Option WindowKind
deriving DecidableEq, Repr

/-- Reads the record. -/
def NewWindow.decode : Decoder NewWindow :=
  Fields.decode "NewWindow" (NewWindow.mk <$> Fields.required "handle" WindowHandle.decode
    <*> Fields.nullable "type" WindowKind.decode)

/-- How far a document has been loaded. -/
inductive ReadyState where
  | loading
  /-- It has been parsed. -/
  | interactive
  /-- It has been loaded with all that it needs. -/
  | complete
deriving DecidableEq, Repr

namespace ReadyState

/-- The states by their names on the wire. -/
def variants : List (String × ReadyState) :=
  [("loading", .loading), ("interactive", .interactive), ("complete", .complete)]

/-- The name of a state in diagnostics. -/
def label : ReadyState → String
  | .loading => "Loading"
  | .interactive => "Interactive"
  | .complete => "Complete"

/-- Reads a state. -/
def decode : Decoder ReadyState := Decoder.variant variants

end ReadyState

/-! ### Cookies -/

/-- Whether a cookie is sent with requests from other sites. -/
inductive SameSite where
  | lax
  | strict
  | none
deriving DecidableEq, Repr

namespace SameSite

/-- The policies by their names on the wire. -/
def variants : List (String × SameSite) := [("Lax", .lax), ("Strict", .strict), ("None", .none)]

/-- The name of a policy on the wire. -/
def text : SameSite → String
  | .lax => "Lax"
  | .strict => "Strict"
  | .none => "None"

/-- The policy as it is sent. -/
def toJson (s : SameSite) : Json := .string s.text

/-- Reads a policy. -/
def decode : Decoder SameSite := Decoder.variant variants

end SameSite

/-- A cookie of the current document. -/
structure Cookie where
  name : String
  value : String
  domain : Option String := none
  path : Option String := none
  secure : Option Bool := none
  httpOnly : Option Bool := none
  /-- The second since 1970 at which it expires. -/
  expiry : Option UInt64 := none
  sameSite : Option SameSite := none
deriving DecidableEq, Repr

namespace Cookie

/-- The record as it is sent. -/
def toJson (c : Cookie) : Json :=
  presentMembers [("name", some (.string c.name)), ("value", some (.string c.value)),
    ("domain", c.domain.map .string), ("path", c.path.map .string), ("secure", c.secure.map .bool),
    ("httpOnly", c.httpOnly.map .bool), ("expiry", c.expiry.map fun n => .nat n.toNat),
    ("sameSite", c.sameSite.map SameSite.toJson)]

/-- Reads the record. -/
def decode : Decoder Cookie :=
  Fields.decode "Cookie" (Cookie.mk <$> Fields.required "name" Decoder.string
    <*> Fields.required "value" Decoder.string <*> Fields.optional "domain" Decoder.string
    <*> Fields.optional "path" Decoder.string <*> Fields.optional "secure" Decoder.boolean
    <*> Fields.optional "httpOnly" Decoder.boolean <*> Fields.optional "expiry" Decoder.natural
    <*> Fields.optional "sameSite" SameSite.decode)

end Cookie

/-! ### Printing -/

/-- The orientation of a printed page. -/
inductive PageOrientation where
  | portrait
  | landscape
deriving DecidableEq, Repr

/-- The name of an orientation on the wire. -/
def PageOrientation.text : PageOrientation → String
  | .portrait => "portrait"
  | .landscape => "landscape"

/-- The double nearest to `digits * 10 ^ -places`, for the few decimals that the library names. -/
def centimetres (digits places : Nat) : Double :=
  (Double.nearest? false digits (Nat.pow 10 places)).getD default

/-- The size of a page in centimetres. -/
structure PageSize where
  width : Double
  height : Double
deriving DecidableEq

/-- The size of a US Letter page. -/
def PageSize.letter : PageSize := ⟨centimetres 2159 2, centimetres 2794 2⟩

/-- The margins of a page in centimetres. -/
structure Margins where
  top : Double
  bottom : Double
  left : Double
  right : Double
deriving DecidableEq

/-- Margins of one centimetre. -/
def Margins.narrow : Margins :=
  ⟨centimetres 1 0, centimetres 1 0, centimetres 1 0, centimetres 1 0⟩

/-- The parameters of printing. -/
structure PrintOptions where
  orientation : PageOrientation := .portrait
  /-- The factor by which the contents are scaled. -/
  scale : Double := centimetres 1 0
  background : Bool := false
  page : PageSize := .letter
  margin : Margins := .narrow
  shrinkToFit : Bool := true
  /-- The pages or ranges of pages; an empty list stands for all. -/
  pageRanges : List String := []
deriving DecidableEq

/-- The record as it is sent. -/
def PrintOptions.toJson (o : PrintOptions) : Json :=
  presentMembers [("orientation", some (.string o.orientation.text)),
    ("scale", some (.double o.scale)), ("background", some (.bool o.background)),
    ("page", some (.ofMembers
      [("width", .double o.page.width), ("height", .double o.page.height)])),
    ("margin", some (.ofMembers [("top", .double o.margin.top), ("bottom", .double o.margin.bottom),
      ("left", .double o.margin.left), ("right", .double o.margin.right)])),
    ("shrinkToFit", some (.bool o.shrinkToFit)),
    ("pageRanges", if o.pageRanges.isEmpty then none else some (.array (o.pageRanges.map .string)))]

end WebDriverClient
