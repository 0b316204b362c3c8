/-
**The command table loses nothing.**

A command can be read off what is sent for it: the session from the second text of the path, the
command from the method, the other texts and the body.  Two texts of a route never fall together,
whatever is given: a route to something of an element is longer than the route to the active
element, and the routes that end in a name have a length of their own.  So two commands that are
sent as the same request are the same command of the same session.

Main definitions:

* `Command.ofGet?`, `Command.ofPost?`, `Command.ofDelete?` — the command of a route;
* `Command.ofTexts?` — the session and the command of a method, the texts of a path and a body.

Main results:

* `Command.ofTexts?_texts` — a command and its session are read off what is sent;
* `Command.request_inj` — **different commands, or different sessions, send different requests, and
  only a request with the method POST has a body**.
-/

import WebDriverClient.Proofs.Wire.RoundTrip
import WebDriverClient.Proofs.Wire.Segments

set_option autoImplicit false

namespace WebDriverClient

open Json (Decoder Fields)
open Json.Fields (Accepts accepts_required decode_ofMembers)

namespace Command

/-! ### Bodies -/

theorem toOption_of_eq {α : Type} {read : Except Json.Mismatch α} {a : α} (h : read = .ok a) :
    read.toOption = some a := by
  rw [h]
  rfl

/-- Reads a body of one member. -/
def parameter? {α : Type} (key : String) (decode : Decoder α) (body : Json) : Option α :=
  (Fields.decode "Parameters" (Fields.required key decode) body).toOption

theorem parameter?_ofMembers {α : Type} {key : String} {decode : Decoder α} {v : Json} {a : α}
    (read : decode v = .ok a) : parameter? key decode (.ofMembers [(key, v)]) = some a := by
  have found : Json.find? key [(key, v)] = some v := by rw [Json.find?_cons, if_pos rfl]
  rw [parameter?, decode_ofMembers _ (by simp) (accepts_required found read)]
  rfl

theorem parameter?_string (key text : String) :
    parameter? key Decoder.string (.ofMembers [(key, .string text)]) = some text :=
  parameter?_ofMembers rfl

/-- Reads a script and its arguments. -/
def script? (body : Json) : Option (String × List Json) :=
  (Fields.decode "Script" (Prod.mk <$> Fields.required "script" Decoder.string
    <*> Fields.required "args" (Decoder.list Decoder.any)) body).toOption

theorem script?_scriptBody (script : String) (args : List Json) :
    script? (scriptBody script args) = some (script, args) := by
  have items : Decoder.listOf Decoder.any args = .ok args := by
    have read : Decoder.listOf Decoder.any (args.map id) = .ok args :=
      Decoder.listOf_map (fun _ => rfl) args
    rwa [List.map_id] at read
  have read : Fields.decode "Script" (Prod.mk <$> Fields.required "script" Decoder.string
      <*> Fields.required "args" (Decoder.list Decoder.any)) (scriptBody script args)
        = .ok (script, args) := by
    refine decode_ofMembers "Script" (by simp) ?_
    refine (Accepts.map Prod.mk ?script).seq ?args
    case script => exact accepts_required rfl rfl
    case args => exact accepts_required rfl items
  rw [script?, read]
  rfl

/-! ### Routes -/

/-- The command that reads something of an element. -/
def ofElementGet? (element : ElementId) : List String → Option Command
  | ["selected"] => some (.isElementSelected element)
  | ["enabled"] => some (.isElementEnabled element)
  | ["attribute", name] => some (.getElementAttribute element name)
  | ["property", name] => some (.getElementProperty element name)
  | ["css", name] => some (.getElementCssValue element name)
  | ["text"] => some (.getElementText element)
  | ["name"] => some (.getElementTagName element)
  | ["rect"] => some (.getElementRect element)
  | ["computedlabel"] => some (.getComputedLabel element)
  | ["screenshot"] => some (.takeElementScreenshot element)
  | _ => none

/-- The command that reads something. -/
def ofGet? : List String → Option Command
  | ["timeouts"] => some .getTimeouts
  | ["url"] => some .getCurrentUrl
  | ["title"] => some .getTitle
  | ["window"] => some .getWindowHandle
  | ["window", "handles"] => some .getWindowHandles
  | ["window", "rect"] => some .getWindowRect
  | ["source"] => some .getPageSource
  | ["screenshot"] => some .takeScreenshot
  | ["cookie"] => some .getAllCookies
  | ["cookie", name] => some (.getNamedCookie name)
  | ["element", "active"] => some .getActiveElement
  | "element" :: element :: rest => ofElementGet? ⟨element⟩ rest
  | _ => none

/-- The command that does something with an element. -/
def ofElementPost? (element : ElementId) (body : Json) : List String → Option Command
  | ["element"] => (Locator.Query.decode body).toOption.map (.findElementFromElement element)
  | ["elements"] => (Locator.Query.decode body).toOption.map (.findElementsFromElement element)
  | ["click"] => some (.elementClick element)
  | ["clear"] => some (.elementClear element)
  | ["value"] => (parameter? "text" Decoder.string body).map (.elementSendKeys element)
  | _ => none

/-- The command that does something. -/
def ofPost? (body : Json) : List String → Option Command
  | ["timeouts"] => (Timeouts.decode body).toOption.map .setTimeouts
  | ["url"] => (parameter? "url" Decoder.string body).map .navigateTo
  | ["back"] => some .back
  | ["forward"] => some .forward
  | ["refresh"] => some .refresh
  | ["window"] => (parameter? "handle" WindowHandle.decode body).map .switchToWindow
  | ["window", "new"] => (parameter? "type" WindowKind.decode body).map .newWindow
  | ["window", "rect"] => (Rect.decode body).toOption.map .setWindowRect
  | ["window", "maximize"] => some .maximizeWindow
  | ["window", "minimize"] => some .minimizeWindow
  | ["window", "fullscreen"] => some .fullscreenWindow
  | ["execute", "sync"] => (script? body).map fun s => .executeScript s.1 s.2
  | ["execute", "async"] => (script? body).map fun s => .executeAsyncScript s.1 s.2
  | ["print"] => (PrintOptions.decode body).toOption.map .printPage
  | ["cookie"] => (parameter? "cookie" Cookie.decode body).map .addCookie
  | ["element"] => (Locator.Query.decode body).toOption.map .findElement
  | ["elements"] => (Locator.Query.decode body).toOption.map .findElements
  | "element" :: element :: rest => ofElementPost? ⟨element⟩ body rest
  | _ => none

/-- The command that removes something. -/
def ofDelete? : List String → Option Command
  | [] => some .deleteSession
  | ["window"] => some .closeWindow
  | ["cookie"] => some .deleteAllCookies
  | ["cookie", name] => some (.deleteCookie name)
  | _ => none

/-- The command of a method, the texts below the address of the session and a body. -/
def ofRoute? (method : Method) (texts : List String) (body : Option Json) : Option Command :=
  match method, body with
  | .get, none => ofGet? texts
  | .post, some body => ofPost? body texts
  | .delete, none => ofDelete? texts
  | _, _ => none

/-- The text of an element may be that of the active element, but then more follows. -/
theorem ofGet?_ofElement (element : ElementId) (first : String) (rest : List String) :
    ofGet? ("element" :: element.text :: first :: rest)
      = ofElementGet? element (first :: rest) := by
  simp [ofGet?]

/-- A command is read off its route. -/
theorem ofRoute?_route (c : Command) :
    ofRoute? c.route.method (c.route.parts.map Part.text) c.route.body = some c := by
  cases c
  -- The commands that are told apart by their body too.
  case setTimeouts timeouts =>
    exact congrArg (Option.map setTimeouts) (toOption_of_eq timeouts.decode_toJson)
  case setWindowRect rect =>
    exact congrArg (Option.map setWindowRect) (toOption_of_eq rect.decode_toJson)
  case printPage options =>
    exact congrArg (Option.map printPage) (toOption_of_eq options.decode_toJson)
  case findElement query =>
    exact congrArg (Option.map findElement) (toOption_of_eq query.decode_toJson)
  case findElements query =>
    exact congrArg (Option.map findElements) (toOption_of_eq query.decode_toJson)
  case addCookie cookie =>
    exact congrArg (Option.map addCookie) (parameter?_ofMembers cookie.decode_toJson)
  case newWindow kind =>
    exact congrArg (Option.map newWindow) (parameter?_ofMembers kind.decode_toJson)
  case switchToWindow handle =>
    have body : parameter? "handle" WindowHandle.decode (.ofMembers [("handle", handle.toJson)])
      = some handle := parameter?_ofMembers handle.decode_toJson
    exact congrArg (Option.map switchToWindow) body
  case navigateTo url =>
    exact congrArg (Option.map navigateTo) (parameter?_string "url" url)
  case executeScript script args =>
    exact congrArg (Option.map fun s => executeScript s.1 s.2) (script?_scriptBody script args)
  case executeAsyncScript script args =>
    exact congrArg (Option.map fun s => executeAsyncScript s.1 s.2) (script?_scriptBody script args)
  case findElementFromElement element query =>
    exact congrArg (Option.map (findElementFromElement element))
      (toOption_of_eq query.decode_toJson)
  case findElementsFromElement element query =>
    exact congrArg (Option.map (findElementsFromElement element))
      (toOption_of_eq query.decode_toJson)
  case elementSendKeys element text =>
    exact congrArg (Option.map (elementSendKeys element)) (parameter?_string "text" text)
  -- The commands that read something of an element.
  case isElementSelected | isElementEnabled | getElementAttribute | getElementProperty
      | getElementCssValue | getElementText | getElementTagName | getElementRect | getComputedLabel
      | takeElementScreenshot =>
    exact ofGet?_ofElement _ _ _
  -- The others have a route that no other command has.
  all_goals rfl

/-! ### Requests -/

/-- The command and the session of a request. -/
def ofTexts? (method : Method) (body : Option Json) : List String → Option (SessionId × Command)
  | "session" :: session :: rest => (ofRoute? method rest body).map (⟨session⟩, ·)
  | _ => none

/-- A command and its session are read off what is sent. -/
theorem ofTexts?_texts (c : Command) (session : SessionId) :
    ofTexts? c.route.method c.route.body (c.texts session) = some (session, c) := by
  have texts : c.texts session = "session" :: session.text :: c.route.parts.map Part.text := rfl
  rw [texts]
  exact congrArg (Option.map (session, ·)) (ofRoute?_route c)

/-- Requests have the same method, path and body only if they are those of the same command in the
same session.  A request has a body exactly when its method is POST. -/
theorem request_inj (s₁ s₂ : SessionId) (c₁ c₂ : Command) :
    ((c₁.request s₁).method = (c₂.request s₂).method ∧ (c₁.request s₁).path = (c₂.request s₂).path
        ∧ (c₁.request s₁).body = (c₂.request s₂).body
      ↔ s₁ = s₂ ∧ c₁ = c₂)
      ∧ ((c₁.request s₁).body.isSome = true ↔ (c₁.request s₁).method = .post) := by
  constructor
  · constructor
    · rintro ⟨method, path, body⟩
      have texts : c₁.texts s₁ = c₂.texts s₂ := path_request_inj.1 path
      have read : some (s₁, c₁) = some (s₂, c₂) := by
        rw [← ofTexts?_texts c₁ s₁, ← ofTexts?_texts c₂ s₂, texts]
        exact congrArg₂ (ofTexts? · · (c₂.texts s₂)) method body
      exact Prod.mk.inj (Option.some.inj read)
    · rintro ⟨rfl, rfl⟩
      exact ⟨rfl, rfl, rfl⟩
  · change c₁.route.body.isSome = true ↔ c₁.route.method = .post
    cases c₁.route with
    | get parts => exact ⟨fun h => (nomatch h), fun h => (nomatch h)⟩
    | post parts body => exact ⟨fun _ => rfl, fun _ => rfl⟩
    | delete parts => exact ⟨fun h => (nomatch h), fun h => (nomatch h)⟩

end Command

end WebDriverClient
