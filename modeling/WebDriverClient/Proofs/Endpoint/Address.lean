/-
**Requests reach the route of their command.**

A driver at the root of a host is asked at an address that is put together from the texts of a
command and read again.  The host and the port are those that the address of the driver is read
with.  The segments of the path stand for the texts of the command as long as no identifier and no
name is one dot or two dots; these two need no percent-encoding, and no encoding would keep them,
because an address takes them for steps in its path.

Main definitions:

* `Url.IsRoot` — the address of the root of a host under the scheme `http`;
* `Command.IsDotFree` — no text that a command is given is one dot or two dots.

Main results:

* `HttpTransport.address_of_isRoot` — the address of a request;
* `HttpTransport.address_request` — **the segments of the address of a request stand for the texts
  of its command exactly when none of the texts it is given is one dot or two dots**, and then no
  other texts have this address.
-/

import Mathlib.Data.List.DropRight
import WebDriverClient.Endpoint.Http
import WebDriverClient.Proofs.Url.Shown

set_option autoImplicit false

namespace WebDriverClient

/-! ### Texts that are given -/

namespace Command

/-- No text that the command is given is one dot or two dots. -/
def IsDotFree (c : Command) (session : SessionId) : Prop :=
  ∀ t, Part.given t ∈ c.segments session → t ≠ "." ∧ t ≠ ".."

/-- No word of a route is one dot or two dots. -/
theorem word_ne_dots (c : Command) (session : SessionId) {w : String}
    (h : Part.word w ∈ c.segments session) : w ≠ "." ∧ w ≠ ".." := by
  -- There is no way around looking at every route.
  have words : Part.word "." ∉ c.segments session ∧ Part.word ".." ∉ c.segments session := by
    cases c <;> simp [segments, route, ofElement, Route.parts]
  constructor
  · rintro rfl
    exact words.1 h
  · rintro rfl
    exact words.2 h

theorem isDotFree_iff {c : Command} {session : SessionId} :
    c.IsDotFree session ↔ ∀ t ∈ c.texts session, t ≠ "." ∧ t ≠ ".." := by
  constructor
  · intro free t mem
    obtain ⟨part, memPart, rfl⟩ := List.mem_map.1 mem
    cases part with
    | word w => exact word_ne_dots c session memPart
    | given s => exact free s memPart
  · intro all t mem
    exact all t (List.mem_map.2 ⟨.given t, mem, rfl⟩)

end Command

/-! ### The root of a host -/

namespace Url

/-- The address of the root of a host under the scheme `http`, as it has been read. -/
structure IsRoot (base : Url) : Prop where
  read : ∃ s, parse s = .ok base
  scheme : base.scheme = "http".toList
  /-- It has a host, perhaps a port, and no more than that. -/
  place : ∃ host port, base.place = .at { host, port } [[]]
  query : base.query = none
  fragment : base.fragment = none

/-- The address of a root is that of its authority, which holds only characters that may stand
there. -/
theorem IsRoot.chars_eq {base : Url} (root : base.IsRoot) :
    ∃ authority, authority ≠ [] ∧ (∀ c ∈ authority, isAuthorityChar c = true)
      ∧ base.chars = httpText authority [[]] := by
  obtain ⟨s, read⟩ := root.read
  obtain ⟨host, port, place⟩ := root.place
  have network : Kind.ofScheme base.scheme = .network 80 := by
    rw [root.scheme]
    rfl
  obtain ⟨a, path, shown⟩ := exists_isShownAs read network
  obtain ⟨rfl, rfl⟩ := Place.at.inj (shown.place.symm.trans place)
  refine ⟨_, shown.authority.hostPort_ne_nil, shown.authority.isAuthorityChar_hostPort, ?_⟩
  rw [shown.chars_eq, root.scheme, root.query, root.fragment]
  simp [httpText, formOf, marked, Authority.text_eq, Authority.credentials]

theorem IsRoot.ofChars_chars {base : Url} (root : base.IsRoot) :
    ofChars base.chars = .ok base := by
  obtain ⟨s, read⟩ := root.read
  have network : Kind.ofScheme base.scheme = .network 80 := by
    rw [root.scheme]
    rfl
  exact Url.ofChars_chars read network

end Url

/-! ### Addresses of requests -/

namespace HttpTransport

open Url

theorem trimSlashes_eq (s : List Char) : trimSlashes s = s.rdropWhile (· = '/') := rfl

/-- Slashes are taken off the last part only, if the part before ends in no slash. -/
theorem trimSlashes_append {front : List Char} (last : ∀ c ∈ front.getLast?, c ≠ '/')
    (back : List Char) : trimSlashes (front ++ back) = front ++ trimSlashes back := by
  rw [trimSlashes_eq, trimSlashes_eq]
  induction back using List.reverseRecOn with
  | nil =>
      rw [List.append_nil, List.rdropWhile_nil, List.append_nil, List.rdropWhile_eq_self_iff]
      intro some slash
      exact last _ (List.getLast?_eq_some_getLast some) (of_decide_eq_true slash)
  | append_singleton back c ih =>
      rw [← List.append_assoc, List.rdropWhile_concat, List.rdropWhile_concat, ih]
      split
      next => rfl
      next => rw [List.append_assoc]

/-- The slash of an empty path is taken off, and the authority does not end in another. -/
theorem trimSlashes_httpText {authority : List Char} (notEmpty : authority ≠ [])
    (chars : ∀ c ∈ authority, isAuthorityChar c = true) :
    trimSlashes (httpText authority [[]]) = httpText authority [] := by
  have front : httpText authority [] = ("http".toList ++ [':', '/', '/']) ++ authority := by
    simp [httpText]
  have last : ∀ c ∈ (httpText authority []).getLast?, c ≠ '/' := by
    rintro c mem rfl
    rw [front, List.getLast?_append_of_ne_nil _ notEmpty] at mem
    exact absurd (chars '/' (List.mem_of_getLast? mem)) (by decide)
  have whole : httpText authority [[]] = httpText authority [] ++ ['/'] := by
    simp [httpText, Path.text]
  have nothing : trimSlashes ['/'] = [] := by decide
  rw [whole, trimSlashes_append last, nothing, List.append_nil]

/-- The segments that are sent for a command. -/
def forms (c : Command) (session : SessionId) : List (List Char) :=
  (c.texts session).map (Percent.encode Percent.isUnreserved)

theorem isSegmentChar_forms (c : Command) (session : SessionId) :
    ∀ s ∈ forms c session, ∀ d ∈ s, isSegmentChar d = true := by
  intro s mem
  obtain ⟨t, -, rfl⟩ := List.mem_map.1 mem
  exact isSegmentChar_form

/-- The address of a request has the host and the port of the driver, and its path is made of the
forms that are sent. -/
theorem address_of_isRoot {base : Url} (root : base.IsRoot) :
    ∃ host : Host × Option Nat, base = httpAt host [[]] ∧ parse base.text = .ok base
      ∧ ∀ c session, address base (Command.request c session).path
          = .ok (httpAt host (Path.ofSegments false (forms c session))) := by
  obtain ⟨authority, notEmpty, chars, eq⟩ := root.chars_eq
  have empty : ∀ s ∈ [([] : List Char)], ∀ d ∈ s, isSegmentChar d = true := by
    intro s mem d here
    rw [List.mem_singleton.1 mem] at here
    nomatch here
  have again := root.ofChars_chars
  -- The address of the driver is read again, so its authority can be read.
  obtain ⟨host, authorityRead, same⟩ : ∃ host,
      parseHostPort (.network 80) authority = .ok host ∧ httpAt host [[]] = base := by
    have read := again
    rw [eq, ofChars_http notEmpty chars empty] at read
    cases hostPort : parseHostPort (.network 80) authority with
    | error e =>
        rw [hostPort] at read
        cases read
    | ok host =>
        rw [hostPort] at read
        exact ⟨host, rfl, Except.ok.inj read⟩
  refine ⟨host, same.symm, ?_, fun c session => ?_⟩
  · rw [Url.parse, Url.text, String.toList_ofList, again]
  · have path : (c.request session).path.toList = Path.text (forms c session) := by
      rw [Command.path_request, String.toList_ofList]
      rfl
    have joined : httpText authority [] ++ Path.text (forms c session)
        = httpText authority (forms c session) := by
      simp [httpText, Path.text]
    rw [address, eq, trimSlashes_httpText notEmpty chars, path, joined,
      ofChars_http notEmpty chars (isSegmentChar_forms c session), authorityRead]
    rfl

/-- A request to a driver at the root of a host always has an address, at that host and port.  Its
segments stand for the texts of the command exactly when none of the texts that it is given is one
dot or two dots.  Commands that are given no such text are sent to the same address only if they
have the same texts. -/
theorem address_request {base : Url} (root : base.IsRoot) (c : Command) (session : SessionId) :
    (∃ (host : Host × Option Nat) (path : List (List Char)),
        base = httpAt host [[]] ∧ parse base.text = .ok base
        ∧ address base (c.request session).path = .ok (httpAt host path)
        ∧ (Path.textsOf path = (c.texts session).map some ↔ c.IsDotFree session))
      ∧ ∀ (c' : Command) (session' : SessionId),
          c.IsDotFree session → c'.IsDotFree session' →
          address base (c.request session).path = address base (c'.request session').path →
          c.texts session = c'.texts session' := by
  obtain ⟨host, here, again, sent⟩ := address_of_isRoot root
  have stands (c : Command) (session : SessionId) :
      Path.textsOf (Path.ofSegments false (forms c session)) = (c.texts session).map some
        ↔ c.IsDotFree session :=
    (Path.textsOf_ofSegments_iff _).trans Command.isDotFree_iff.symm
  refine ⟨⟨host, _, here, again, sent c session, stands c session⟩, ?_⟩
  intro c' session' free free' shared
  rw [sent, sent] at shared
  have same : Path.ofSegments false (forms c session)
      = Path.ofSegments false (forms c' session') := (httpAt_inj (Except.ok.inj shared)).2
  have texts : (c.texts session).map some = (c'.texts session').map some := by
    rw [← (stands c session).2 free, same, (stands c' session').2 free']
  exact List.map_injective_iff.2 (Option.some_injective _) texts

/-! ### A driver on this computer -/

/-- The host and the port of a driver on this computer. -/
def localDriver : Host × Option Nat := (.ipv6 ⟨[0, 0, 0, 0, 0, 0, 0, 1], rfl⟩, some 4444)

theorem isRoot_localDriver : (httpAt localDriver [[]]).IsRoot where
  read := ⟨"http://[::1]:4444/", rfl⟩
  scheme := rfl
  place := ⟨_, _, rfl⟩
  query := rfl
  fragment := rfl

/-- Identifiers and names that need percent-encoding stay in their places. -/
theorem address_request_localDriver :
    (httpAt localDriver [[]]).IsRoot
      ∧ ∃ path : List (List Char),
        address (httpAt localDriver [[]])
            ((Command.getElementAttribute ⟨"../e"⟩ "a?b#c").request ⟨"s/1 %2E"⟩).path
              = .ok (httpAt localDriver path)
          ∧ Path.textsOf path = ["session", "s/1 %2E", "element", "../e", "attribute",
              "a?b#c"].map some := by
  have free : (Command.getElementAttribute ⟨"../e"⟩ "a?b#c").IsDotFree ⟨"s/1 %2E"⟩ :=
    Command.isDotFree_iff.2 (by decide)
  obtain ⟨⟨host, path, here, -, sent, stands⟩, -⟩ := address_request isRoot_localDriver
    (.getElementAttribute ⟨"../e"⟩ "a?b#c") ⟨"s/1 %2E"⟩
  obtain rfl : localDriver = host := (httpAt_inj here).1
  exact ⟨isRoot_localDriver, path, sent, stands.2 free⟩

/-- A session that is called two dots takes a command to the route of another, and two sessions
whose elements have dots for names share an address. -/
theorem address_of_dots :
    address (httpAt localDriver [[]]) (Command.getCurrentUrl.request ⟨".."⟩).path
        = .ok (httpAt localDriver ["url".toList])
      ∧ Path.textsOf ["url".toList] ≠ (Command.getCurrentUrl.texts ⟨".."⟩).map some
      ∧ ∀ request ∈ [(Command.getElementText ⟨"."⟩).request ⟨"."⟩,
          (Command.getElementText ⟨".."⟩).request ⟨"element"⟩],
        address (httpAt localDriver [[]]) request.path
          = .ok (httpAt localDriver ["session".toList, "element".toList, "text".toList]) := by
  refine ⟨rfl, by decide, ?_⟩
  intro request mem
  rcases List.mem_pair.1 mem with rfl | rfl
  · rfl
  · rfl

end HttpTransport

end WebDriverClient
