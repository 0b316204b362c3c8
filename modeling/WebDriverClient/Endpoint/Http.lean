/-
**Requests over HTTP.**

The path of a request is put after the address of the driver, less the slashes at its end, and the
whole is read again as an address.  The host of that address is asked for its path and query.

Main definitions:

* `HttpRequest` — what a host is asked;
* `HttpTransport.address` — the address of a request;
* `HttpTransport.transport` — what carries requests to a host that answers.
-/

import WebDriverClient.Browsing.Client
import WebDriverClient.Url.Parse

set_option autoImplicit false

namespace WebDriverClient

/-- What a host is asked. -/
structure HttpRequest where
  method : Method
  url : Url
  body : Option Json

/-- The type of a body. -/
def HttpRequest.contentType : String := "application/json"

/-- What a request for an address says about itself: the path and the query. -/
def HttpRequest.target (r : HttpRequest) : String := r.url.target

namespace HttpTransport

variable {σ : Type}

/-- A text without the slashes at its end. -/
def trimSlashes (s : List Char) : List Char := (s.reverse.dropWhile (· = '/')).reverse

/-- The address of a request. -/
def address (base : Url) (path : String) : Except Url.Failure Url :=
  Url.ofChars (trimSlashes base.chars ++ path.toList)

/-- Addresses of this scheme can be asked, if they have a host. -/
def canBeAsked (url : Url) : Bool :=
  (String.ofList url.scheme = "http" || String.ofList url.scheme = "https") && url.host?.isSome

/-- What carries requests to hosts that answer as `answer` says. -/
def transport (base : Url) (answer : HttpRequest → σ → Delivery × σ) : Transport σ :=
  fun request state =>
    match address base request.path with
    | .error e => (⟨.error (.url e), 0⟩, state)
    | .ok url =>
      if canBeAsked url then answer ⟨request.method, url, request.body⟩ state
      else (⟨.error (.http "the address cannot be asked"), 0⟩, state)

end HttpTransport

end WebDriverClient
