/-
**Announcements.**

A driver that has been started says on which address it listens: on some line of its output stand
the words `Listening on`, a host, a colon and a port.  Lines come from two streams, in any order.  A
line that is not UTF-8 ends its stream, and when both streams have ended the driver has exited.

Main definitions:

* `Announcement.hostPort?` — the host and the port of a line, as they are written;
* `Announcement.parse?` — the address that a line announces;
* `Arrival` — what is read from a driver;
* `Announcement.await` — the first address that is announced, or why there is none.
-/

import WebDriverClient.Text.Blank
import WebDriverClient.Text.Ranges
import WebDriverClient.Url.Parse

set_option autoImplicit false

namespace WebDriverClient

namespace Announcement

/-! ### Lines -/

/-- What follows some words at the start of a text. -/
def dropWords? : List Char → List Char → Option (List Char)
  | [], s => some s
  | _ :: _, [] => none
  | w :: words, c :: s => if w = c then dropWords? words s else none

/-- The words before an address. -/
def words : List Char := "Listening on ".toList

/-- The host and the port at the start of a text: the host goes on to the last colon before a
digit, and the port is all digits after it. -/
def splitHostPort? : List Char → Option (List Char × List Char)
  | [] => none
  | c :: rest =>
    match splitHostPort? rest with
    | some (host, port) => some (c :: host, port)
    | none =>
      match rest with
      | ':' :: d :: after =>
        if Text.isDecimalDigit d then
          some ([c], (d :: after).takeWhile Text.isDecimalDigit)
        else none
      | _ => none

/-- The host and the port that a line announces, as they are written.  Of several announcements
the first counts. -/
def hostPort? : List Char → Option (List Char × List Char)
  | [] => none
  | c :: rest =>
    let here := (dropWords? words (c :: rest)).bind fun after =>
      splitHostPort? (after.takeWhile (!Text.isBlank ·))
    match here with
    | some found => some found
    | none => hostPort? rest

/-- A host in the form that an address wants: colons stand in brackets only. -/
def bracket (host : List Char) : List Char :=
  if host.contains ':' && host.head? ≠ some '[' then '[' :: host ++ [']'] else host

/-- The number of 16 bits that ASCII digits stand for. -/
def port? (digits : List Char) : Option Nat := (Url.numeral? 10 digits).filter (· < 65536)

/-- The address of a host and a port. -/
def address? (host port : List Char) : Option Url := do
  let number ← port? port
  (Url.ofChars ("http://".toList ++ bracket host ++ ':' :: Url.decimal number)).toOption

/-- The address that a line announces. -/
def parse? (line : List Char) : Option Url := do
  let (host, port) ← hostPort? line
  address? host port

end Announcement

/-! ### Streams -/

/-- The streams of a process. -/
inductive OutputStream where
  | output
  | errors
deriving DecidableEq, Repr

/-- What is read from a driver. -/
inductive Arrival where
  | line (stream : OutputStream) (bytes : List UInt8)
  | ended (stream : OutputStream)
deriving DecidableEq, Repr

/-- What comes of waiting for an announcement: the address at which the driver listens, or none,
because both streams have ended or as long as it was waited for. -/
inductive Announcement where
  | heard (url : Url)
  | exited
  | silent
deriving DecidableEq, Repr

namespace Announcement

/-- The streams that have not ended. -/
def without (stream : OutputStream) (streams : List OutputStream) : List OutputStream :=
  streams.filter (· ≠ stream)

/-- What comes of waiting for an announcement on the streams that have not ended. -/
def await : List OutputStream → List Arrival → Announcement
  | [], _ => .exited
  | _, [] => .silent
  | streams, .ended stream :: rest => await (without stream streams) rest
  | streams, .line stream bytes :: rest =>
    if stream ∈ streams then
      match Utf8.decode? bytes with
      | none => await (without stream streams) rest
      | some line =>
        match parse? line.toList with
        | some url => .heard url
        | none => await streams rest
    else await streams rest

/-- What comes of waiting for an announcement on both streams. -/
def ofArrivals (arrivals : List Arrival) : Announcement := await [.output, .errors] arrivals

end Announcement

end WebDriverClient
