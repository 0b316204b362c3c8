/-
**Hosts.**

A host is a domain name or an address.  Where the scheme knows hosts, a name is percent-decoded and
turned into its ASCII form, and a name that ends in a number must be an IPv4 address.  Under any
other scheme a host is kept as it is written.

Main definitions:

* `Host` — the hosts, and `Host.text`, their form;
* `Host.parse` — reads a host under a scheme that knows hosts;
* `Host.parseOpaque` — reads a host under any other scheme.
-/

import WebDriverClient.Text.Percent
import WebDriverClient.Url.Domain
import WebDriverClient.Url.Failure
import WebDriverClient.Url.Ipv6

set_option autoImplicit false

namespace WebDriverClient.Url

/-- The host of an address. -/
inductive Host where
  /-- A name, or no host if it is empty. -/
  | domain (name : List Char)
  | ipv4 (a : Ipv4)
  | ipv6 (a : Ipv6)
deriving DecidableEq, Repr

namespace Host

/-- The form of a host. -/
def text : Host → List Char
  | domain name => name
  | ipv4 a => a.text
  | ipv6 a => '[' :: a.text ++ [']']

/-- There is no host. -/
def isEmpty : Host → Bool
  | domain name => name.isEmpty
  | _ => false

/-- Reads an address in brackets, the first of which has been read. -/
def parseBracketed (s : List Char) : Except Failure Host :=
  if s.getLast? = some ']' then
    match Ipv6.parse? s.dropLast with
    | some a => .ok (.ipv6 a)
    | none => .error .invalidIpv6
  else .error .invalidIpv6

/-- The host of a name in its ASCII form. -/
def ofName (name : List Char) : Except Failure Host :=
  if name.isEmpty then .error .emptyHost
  else if Ipv4.endsInNumber name then
    match Ipv4.parse? name with
    | some a => .ok (.ipv4 a)
    | none => .error .invalidIpv4
  else .ok (.domain name)

/-- Reads a host under a scheme that knows hosts. -/
def parse : List Char → Except Failure Host
  | '[' :: rest => parseBracketed rest
  | s =>
    match Utf8.decode? (Percent.decode (Utf8.encode (String.ofList s))) with
    | none => .error .invalidDomain
    | some decoded =>
      match Domain.ofText? decoded with
      | none => .error .invalidDomain
      | some name => ofName name

/-- The characters that a host under another scheme does not hold. -/
def isForbidden (c : Char) : Bool := c = '\x00' || " #/:<>?@[\\]^|".toList.contains c

/-- The bytes that stand for themselves in such a host. -/
def isPlain (b : UInt8) : Bool := 0x20 ≤ b && b ≤ 0x7E

/-- Reads a host under a scheme that does not know hosts. -/
def parseOpaque : List Char → Except Failure Host
  | '[' :: rest => parseBracketed rest
  | s =>
    if s.any isForbidden then .error .invalidDomainCharacter
    else .ok (.domain (Percent.encode isPlain (String.ofList s)))

end Host

end WebDriverClient.Url
