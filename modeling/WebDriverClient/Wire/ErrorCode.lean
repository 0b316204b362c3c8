/-
**Error codes.**

The protocol names its errors by words.  A word that is not in its table is kept as it came, so the
wire form of a code is always the word it was read from.

Main definitions:

* `ErrorCode` — the codes, with `ErrorCode.ofText` and `ErrorCode.text`, their wire form.

Main results:

* `ErrorCode.text_ofText` — the wire form of the code of a word is that word.
-/

import WebDriverClient.Text.Quoted

set_option autoImplicit false

namespace WebDriverClient

/-- An error code of the protocol. -/
inductive ErrorCode where
  | elementClickIntercepted
  | elementNotInteractable
  | insecureCertificate
  | invalidArgument
  | invalidCookieDomain
  | invalidElementState
  | invalidSelector
  | invalidSessionId
  | javascriptError
  | moveTargetOutOfBounds
  | noSuchAlert
  | noSuchCookie
  | noSuchElement
  | noSuchFrame
  | noSuchWindow
  | noSuchShadowRoot
  | scriptTimeout
  | sessionNotCreated
  | staleElementReference
  | detachedShadowRoot
  | timeout
  | unableToSetCookie
  | unableToCaptureScreen
  | unexpectedAlertOpen
  | unknownCommand
  | unknownError
  | unknownMethod
  | unsupportedOperation
  /-- A word that is not in the table. -/
  | unknown (word : String)
deriving DecidableEq, Repr

namespace ErrorCode

/-- The table of the protocol. -/
def known : List (String × ErrorCode) :=
  [("element click intercepted", elementClickIntercepted),
    ("element not interactable", elementNotInteractable),
    ("insecure certificate", insecureCertificate),
    ("invalid argument", invalidArgument),
    ("invalid cookie domain", invalidCookieDomain),
    ("invalid element state", invalidElementState),
    ("invalid selector", invalidSelector),
    ("invalid session id", invalidSessionId),
    ("javascript error", javascriptError),
    ("move target out of bounds", moveTargetOutOfBounds),
    ("no such alert", noSuchAlert),
    ("no such cookie", noSuchCookie),
    ("no such element", noSuchElement),
    ("no such frame", noSuchFrame),
    ("no such window", noSuchWindow),
    ("no such shadow root", noSuchShadowRoot),
    ("script timeout", scriptTimeout),
    ("session not created", sessionNotCreated),
    ("stale element reference", staleElementReference),
    ("detached shadow root", detachedShadowRoot),
    ("timeout", timeout),
    ("unable to set cookie", unableToSetCookie),
    ("unable to capture screen", unableToCaptureScreen),
    ("unexpected alert open", unexpectedAlertOpen),
    ("unknown command", unknownCommand),
    ("unknown error", unknownError),
    ("unknown method", unknownMethod),
    ("unsupported operation", unsupportedOperation)]

/-- The code of a word. -/
def ofText (word : String) : ErrorCode :=
  ((known.find? (·.1 = word)).map (·.2)).getD (unknown word)

/-- The word of a code. -/
def text : ErrorCode → String
  | unknown word => word
  | code => ((known.find? (·.2 = code)).map (·.1)).getD ""

/-- The wire form of the code of a word is that word. -/
theorem text_ofText (word : String) : (ofText word).text = word := by
  unfold ofText
  cases h : known.find? (·.1 = word) with
  | none => rfl
  | some entry =>
    have hmem := List.mem_of_find?_eq_some h
    have hword : entry.1 = word := by simpa using List.find?_some h
    have htable : ∀ e ∈ known, e.2.text = e.1 := by decide
    simp [htable entry hmem, hword]

/-- The word of a code, written as one word in which each part begins with a capital. -/
def label : ErrorCode → String
  | unknown word => "Unknown(" ++ Text.quote word ++ ")"
  | code => String.join ((code.text.splitOn " ").map String.capitalize)

/-- The code is not in the table. -/
def isUnknown : ErrorCode → Bool
  | unknown _ => true
  | _ => false

end ErrorCode

end WebDriverClient
