/-
**Addresses.**

An address is a scheme and what the scheme says: usually an authority, with a host and perhaps a
port, and a path; or a text that only the scheme understands.  A query and a fragment may follow.
All parts are kept in the encoded form in which they are shown.

Main definitions:

* `Url` — the addresses;
* `Url.text` — the form of an address;
* `Url.target` — the path and the query, which is what a request asks a host for.
-/

import WebDriverClient.Url.Host
import WebDriverClient.Url.Ipv4
import WebDriverClient.Url.Path

set_option autoImplicit false

namespace WebDriverClient

/-- Who is asked for something, and where. -/
structure Url.Authority where
  user : List Char := []
  password : List Char := []
  host : Url.Host
  /-- The port, unless it is the one of the scheme. -/
  port : Option Nat := none
deriving DecidableEq, Repr

/-- What stands between the scheme and the query. -/
inductive Url.Place where
  | at (authority : Url.Authority) (path : List (List Char))
  | path (path : List (List Char))
  /-- A text that only the scheme understands. -/
  | schemeText (text : List Char)
deriving DecidableEq, Repr

/-- An address. -/
structure Url where
  scheme : List Char
  place : Url.Place
  query : Option (List Char) := none
  fragment : Option (List Char) := none
deriving DecidableEq, Repr

namespace Url

/-- The user and the password as they stand before a host. -/
def Authority.credentials (a : Authority) : List Char :=
  if a.user.isEmpty && a.password.isEmpty then []
  else if a.password.isEmpty then a.user ++ ['@']
  else a.user ++ ':' :: a.password ++ ['@']

/-- The form of an authority. -/
def Authority.text (a : Authority) : List Char :=
  a.credentials ++ a.host.text ++ a.port.elim [] fun p => ':' :: decimal p

/-- The form of a place.  A path alone that would read as an authority begins with a dot. -/
def Place.text : Place → List Char
  | .at authority segments => '/' :: '/' :: authority.text ++ Path.text segments
  | .path ([] :: s :: rest) => '/' :: '.' :: Path.text ([] :: s :: rest)
  | .path segments => Path.text segments
  | .schemeText s => s

/-- The query and the fragment with their marks. -/
def suffix (u : Url) : List Char :=
  u.query.elim [] (fun q => '?' :: q) ++ u.fragment.elim [] (fun f => '#' :: f)

/-- The characters of the form of an address. -/
def chars (u : Url) : List Char := u.scheme ++ ':' :: u.place.text ++ u.suffix

/-- The form of an address. -/
def text (u : Url) : String := String.ofList u.chars

/-- The path of an address, as it is shown. -/
def path (u : Url) : List Char :=
  match u.place with
  | .at _ segments => Path.text segments
  | .path segments => Path.text segments
  | .schemeText s => s

/-- What a request asks a host for: the path and the query. -/
def target (u : Url) : String := String.ofList (u.path ++ u.query.elim [] fun q => '?' :: q)

/-- The host of an address, if it has one. -/
def host? (u : Url) : Option Host :=
  match u.place with
  | .at authority _ => if authority.host.isEmpty then none else some authority.host
  | _ => none

end Url

end WebDriverClient
