/-
**Reading addresses.**

An address is read from the left: the scheme, then what the kind of the scheme prescribes, then the
query and the fragment.  Blanks around an address and line ends inside of it do not count.

Main definitions:

* `Url.Kind` — the kinds of schemes;
* `Url.parse` — reads an address.
-/

import WebDriverClient.Url.Basic

set_option autoImplicit false

namespace WebDriverClient.Url

/-! ### Schemes -/

/-- The kinds of schemes. -/
inductive Kind where
  /-- A host is asked, at this port if no other is given. -/
  | network (port : Nat)
  | file
  | other
deriving DecidableEq, Repr

/-- The kind of a scheme. -/
def Kind.ofScheme (scheme : List Char) : Kind :=
  match String.ofList scheme with
  | "http" | "ws" => .network 80
  | "https" | "wss" => .network 443
  | "ftp" => .network 21
  | "file" => .file
  | _ => .other

/-- The scheme is one of those that the rules for addresses name. -/
def Kind.isSpecial : Kind → Bool
  | .other => false
  | _ => true

/-- The port that need not be given. -/
def Kind.defaultPort : Kind → Option Nat
  | .network port => some port
  | _ => none

/-- The characters of a scheme. -/
def isSchemeChar (c : Char) : Bool := c.isAlphanum || c = '+' || c = '-' || c = '.'

/-- Reads a scheme and the colon after it. -/
def scheme? (s : List Char) : Option (List Char × List Char) :=
  match s.takeWhile isSchemeChar, s.dropWhile isSchemeChar with
  | c :: cs, ':' :: rest => if c.isAlpha then some ((c :: cs).map Char.toLower, rest) else none
  | _, _ => none

/-! ### Characters -/

/-- A control character or a space. -/
def isBlank (c : Char) : Bool := c.toNat ≤ 0x20

/-- A character that does not count inside of an address. -/
def isIgnored (c : Char) : Bool := c = '\t' || c = '\n' || c = '\r'

/-- The characters of an address that count. -/
def significant (s : List Char) : List Char :=
  ((s.dropWhile isBlank).reverse.dropWhile isBlank).reverse.filter (!isIgnored ·)

/-- A slash; under a special scheme a backslash is one too. -/
def isSlash (kind : Kind) (c : Char) : Bool := c = '/' || (kind.isSpecial && c = '\\')

/-- The start of the query or of the fragment. -/
def isMark (c : Char) : Bool := c = '?' || c = '#'

/-- The end of an authority. -/
def endsAuthority (kind : Kind) (c : Char) : Bool := isSlash kind c || isMark c

/-- Visible ASCII characters other than the given ones. -/
def plainBut (others : List Char) (b : UInt8) : Bool :=
  0x21 ≤ b && b ≤ 0x7E && !(others.map fun c => c.toNat.toUInt8).contains b

/-- The bytes that stand for themselves in the name of a user. -/
def isUserByte (b : UInt8) : Bool := Path.isPlain b && plainBut "/:;=@[\\]|".toList b

/-- The bytes that stand for themselves in a query. -/
def isQueryByte (kind : Kind) : UInt8 → Bool :=
  plainBut ("\"#<>".toList ++ if kind.isSpecial then ['\''] else [])

/-- The bytes that stand for themselves in a fragment. -/
def isFragmentByte : UInt8 → Bool := plainBut "\"<>\x60".toList

/-- A text with the bytes that do not stand for themselves encoded. -/
def encoded (keep : UInt8 → Bool) (s : List Char) : List Char :=
  Percent.encode keep (String.ofList s)

/-! ### Authorities -/

/-- The parts of a text before and after the last occurrence of a character. -/
def splitAtLast (mark : Char) (s : List Char) : Option (List Char × List Char) :=
  match s.reverse.dropWhile (· ≠ mark) with
  | [] => none
  | _ :: before => some (before.reverse, (s.reverse.takeWhile (· ≠ mark)).reverse)

/-- The user and the password of the text before the at sign. -/
def credentials (info : List Char) : List Char × List Char :=
  (encoded isUserByte (info.takeWhile (· ≠ ':')),
    encoded isUserByte ((info.dropWhile (· ≠ ':')).drop 1))

/-- The text of a host, which ends at a colon outside of brackets, and what follows it. -/
def spanHost (bracketed : Bool) : List Char → List Char × List Char
  | [] => ([], [])
  | c :: rest =>
    if c = ':' && !bracketed then ([], c :: rest)
    else
      let (host, after) := spanHost ((bracketed || c = '[') && c ≠ ']') rest
      (c :: host, after)

/-- Reads a host. -/
def parseHost (kind : Kind) (s : List Char) : Except Failure Host :=
  if kind.isSpecial then if s.isEmpty then .error .emptyHost else Host.parse s
  else Host.parseOpaque s

/-- Reads the decimal digits of a port, as long as it has 16 bits. -/
def portNumber (digits : List Char) : Except Failure Nat :=
  match numeral? 10 digits with
  | some port => if port < 65536 then .ok port else .error .invalidPort
  | none => .error .invalidPort

/-- Reads a port.  No digits, and the number that need not be given, stand for no port. -/
def parsePort (kind : Kind) (digits : List Char) : Except Failure (Option Nat) := do
  let port ← portNumber digits
  if digits.isEmpty || kind.defaultPort = some port then return none else return some port

/-- Reads a host and the port after it. -/
def parseHostPort (kind : Kind) (s : List Char) : Except Failure (Host × Option Nat) := do
  let (hostText, after) := spanHost false s
  let host ← parseHost kind hostText
  match after with
  | [] => return (host, none)
  | _ :: digits => if host.isEmpty then throw .emptyHost else return (host, ← parsePort kind digits)

/-- Reads an authority, and returns what follows it. -/
def parseAuthority (kind : Kind) (s : List Char) : Except Failure (Authority × List Char) := do
  let text := s.takeWhile (!endsAuthority kind ·)
  let rest := s.dropWhile (!endsAuthority kind ·)
  match splitAtLast '@' text with
  | none =>
    let (host, port) ← parseHostPort kind text
    return (⟨[], [], host, port⟩, rest)
  | some (info, hostPort) =>
    if info.isEmpty && hostPort.isEmpty && !rest.isEmpty then throw .emptyHost
    let (host, port) ← parseHostPort kind hostPort
    let (user, password) := credentials info
    if host.isEmpty && !(user.isEmpty && password.isEmpty) then throw .emptyHost
    return (⟨user, password, host, port⟩, rest)

/-! ### Paths -/

/-- The text before the query and the fragment. -/
def beforeMark (s : List Char) : List Char := s.takeWhile (!isMark ·)

/-- The query and the fragment with their marks. -/
def fromMark (s : List Char) : List Char := s.dropWhile (!isMark ·)

/-- Reads segments. -/
def parsePath (kind : Kind) (s : List Char) : List (List Char) :=
  Path.ofSegments (kind = .file) (s.splitOnP (isSlash kind))

/-- The text without a slash at its start. -/
def dropSlash (kind : Kind) : List Char → List Char
  | c :: rest => if isSlash kind c then rest else c :: rest
  | [] => []

/-- Reads the path after an authority.  Only under a special scheme is there always one. -/
def parsePathAfter (kind : Kind) (s : List Char) : List (List Char) :=
  if s.isEmpty && !kind.isSpecial then [] else parsePath kind (dropSlash kind s)

/-! ### Places -/

/-- Reads what a network scheme says. -/
def parseNetwork (kind : Kind) (s : List Char) : Except Failure (Place × List Char) := do
  let (authority, rest) ← parseAuthority kind (s.dropWhile (isSlash kind))
  return (.at authority (parsePathAfter kind (beforeMark rest)), fromMark rest)

/-- The host of the address of a file; this computer needs no name. -/
def parseFileHost (s : List Char) : Except Failure Host := do
  if s.isEmpty then return .domain []
  let host ← Host.parse s
  if host = .domain "localhost".toList then return .domain [] else return host

/-- The place of a file.  A path that begins with a drive has no host. -/
def filePlace (host : Host) (s : List Char) : Place :=
  let path := parsePath .file (dropSlash .file s)
  let host := if (path.head?).any Path.isDrive then .domain [] else host
  let path := path.dropWhile (·.isEmpty)
  .at { host } (if path.isEmpty then [[]] else path)

/-- Reads what the scheme of files says. -/
def parseFile (s : List Char) : Except Failure (Place × List Char) := do
  match s with
  | a :: b :: rest =>
    if isSlash .file a && isSlash .file b then
      let hostText := rest.takeWhile (!endsAuthority .file ·)
      if Path.isDrive hostText then return (filePlace (.domain []) (beforeMark rest), fromMark rest)
      let host ← parseFileHost hostText
      let rest := rest.dropWhile (!endsAuthority .file ·)
      return (filePlace host (beforeMark rest), fromMark rest)
    else return (filePlace (.domain []) (beforeMark s), fromMark s)
  | _ => return (filePlace (.domain []) (beforeMark s), fromMark s)

/-- The bytes that stand for themselves in a text that only the scheme understands. -/
def isSchemeTextByte (b : UInt8) : Bool := 0x20 ≤ b && b ≤ 0x7E

/-- Reads what any other scheme says. -/
def parseOther (s : List Char) : Except Failure (Place × List Char) := do
  match s with
  | '/' :: '/' :: rest =>
    let (authority, rest) ← parseAuthority .other rest
    return (.at authority (parsePathAfter .other (beforeMark rest)), fromMark rest)
  | '/' :: rest => return (.path (parsePath .other (beforeMark rest)), fromMark rest)
  | _ => return (.schemeText (encoded isSchemeTextByte (beforeMark s)), fromMark s)

/-- Reads what a scheme says. -/
def parsePlace (kind : Kind) (s : List Char) : Except Failure (Place × List Char) :=
  match kind with
  | .network _ => parseNetwork kind s
  | .file => parseFile s
  | .other => parseOther s

/-! ### Addresses -/

/-- Reads the query at the start of a text. -/
def query? (kind : Kind) : List Char → Option (List Char)
  | '?' :: rest => some (encoded (isQueryByte kind) (rest.takeWhile (· ≠ '#')))
  | _ => none

/-- Reads the fragment of a text. -/
def fragment? (s : List Char) : Option (List Char) :=
  match s.dropWhile (· ≠ '#') with
  | [] => none
  | _ :: rest => some (encoded isFragmentByte rest)

/-- Reads the characters of an address. -/
def ofChars (s : List Char) : Except Failure Url := do
  match scheme? (significant s) with
  | none => throw .relativeWithoutBase
  | some (scheme, rest) =>
    let kind := Kind.ofScheme scheme
    let (place, rest) ← parsePlace kind rest
    return ⟨scheme, place, query? kind rest, fragment? rest⟩

/-- Reads an address. -/
def parse (s : String) : Except Failure Url := ofChars s.toList

end WebDriverClient.Url
