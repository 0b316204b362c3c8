/-
**Addresses are read back from their form.**

What is read of an address of a network scheme is kept in a form that needs no more encoding: the
characters of the user, of the segments of the path, of the query and of the fragment stand for
themselves, the host is one that is read back, and the port is not the one of the scheme.  An
address that is put together of such parts is cut where it was put together, so its parts are what
is read.

Main definitions:

* `Path.IsShown`, `Authority.IsShown` — what is known of segments and authorities that are read;
* `IsShownAs` — what is known of an address of a network scheme that has been read;
* `formOf` — the form of an address of a network scheme, part by part.

Main results:

* `exists_isShownAs` — **the parts of an address that has been read**;
* `ofChars_formOf` — the parts are read back;
* `ofChars_chars` — **an address is read back from its form**.
-/

import WebDriverClient.Proofs.Url.Domain
import WebDriverClient.Proofs.Url.Path

set_option autoImplicit false

namespace WebDriverClient.Url

open Percent (IsKept Closed)

-- The port that a network scheme needs not be given.
variable {usual : Nat}

/-! ### Network schemes -/

/-- What holds of the network schemes that there are. -/
theorem of_network {p : List Char → Prop}
    (check : p "http".toList ∧ p "ws".toList ∧ p "https".toList ∧ p "wss".toList ∧ p "ftp".toList)
    {word : List Char} (network : Kind.ofScheme word = .network usual) : p word := by
  have same {name : String} (eq : String.ofList word = name) : word = name.toList := by
    rw [← eq, String.toList_ofList]
  obtain ⟨http, ws, https, wss, ftp⟩ := check
  unfold Kind.ofScheme at network
  split at network
  next eq => exact same eq ▸ http
  next eq => exact same eq ▸ ws
  next eq => exact same eq ▸ https
  next eq => exact same eq ▸ wss
  next eq => exact same eq ▸ ftp
  next => cases network
  next => cases network

/-- A network scheme ends at the colon. -/
theorem scheme?_network {word : List Char} (network : Kind.ofScheme word = .network usual)
    (rest : List Char) : scheme? (word ++ ':' :: rest) = some (word, rest) := by
  have known : word.all isSchemeChar = true ∧ word.head?.any Char.isAlpha = true ∧
      word.map Char.toLower = word :=
    of_network (p := fun word => word.all isSchemeChar = true ∧
      word.head?.any Char.isAlpha = true ∧ word.map Char.toLower = word) (by decide) network
  exact scheme?_append (List.all_eq_true.1 known.1) known.2.1 known.2.2 rest

theorem isSlash_network (c : Char) :
    isSlash (.network usual) c = (decide (c = '/') || decide (c = '\\')) := rfl

theorem isQueryByte_network : isQueryByte (.network usual) = plainBut "\"#<>'".toList := rfl

/-! ### Bytes that stand for themselves -/

theorem lt_of_plainBut {others : List Char} {b : UInt8} (h : plainBut others b = true) :
    b < 0x80 := by
  simp only [plainBut, Bool.and_eq_true, decide_eq_true_eq] at h
  exact UInt8.lt_of_le_of_lt h.1.2 (by decide)

theorem closed_isPlain : Closed Path.isPlain where
  ascii := fun b h => by
    simp only [Path.isPlain, Bool.and_eq_true, decide_eq_true_eq] at h
    exact UInt8.lt_of_le_of_lt h.1.2 (by decide)
  percent := by decide
  digit := by decide

theorem closed_isUserByte : Closed isUserByte where
  ascii := fun b h => closed_isPlain.ascii b (Bool.and_eq_true_iff.1 h).1
  percent := by decide
  digit := by decide

theorem closed_isQueryByte : Closed (isQueryByte (.network usual)) := by
  rw [isQueryByte_network]
  exact ⟨fun _ h => lt_of_plainBut h, by decide, by decide⟩

theorem closed_isFragmentByte : Closed isFragmentByte where
  ascii := fun _ h => lt_of_plainBut h
  percent := by decide
  digit := by decide

/-! ### Segments -/

/-- What is known of the segments of a path that has been read. -/
structure Path.IsShown (s : List Char) : Prop where
  /-- It needs no more encoding. -/
  kept : IsKept Path.isPlain s
  /-- It is one segment. -/
  chars : ∀ c ∈ s, isSegmentChar c = true
  /-- It is no dot segment. -/
  plain : Path.isDots s = false

theorem Path.isShown_nil : Path.IsShown [] :=
  ⟨fun _ mem => (List.not_mem_nil mem).elim, fun _ mem => (List.not_mem_nil mem).elim, rfl⟩

/-- A segment that is no dot segment after it has been encoded. -/
theorem Path.isShown_encode {piece : List Char}
    (noSlash : ∀ c ∈ piece, isSlash (.network usual) c = false)
    (plain : Path.isDots (Path.encode piece) = false) : Path.IsShown (Path.encode piece) := by
  have kept := Percent.isKept_encode closed_isPlain (String.ofList piece)
  refine ⟨kept, fun c mem => ?_, plain⟩
  have visible : c ≠ '/' → c ≠ '\\' → isSegmentChar c = true :=
    kept.of (p := fun c => c ≠ '/' → c ≠ '\\' → isSegmentChar c = true) (by decide) c mem
  rcases Percent.mem_encode closed_isPlain.ascii mem with ⟨own, -⟩ | rfl | ⟨n, small, rfl⟩
  · rw [String.toList_ofList] at own
    have other := noSlash c own
    rw [isSlash_network] at other
    refine visible ?_ ?_
    all_goals
      rintro rfl
      exact absurd other (by decide)
  · decide
  · have digits : ∀ n < 16, isSegmentChar (Percent.hexDigit n) = true := by decide
    exact digits n small

/-- What is known of the path of an address that has been read. -/
theorem isShown_of_mem_parsePathAfter {s : List Char} :
    ∀ segment ∈ parsePathAfter (.network usual) s, Path.IsShown segment := by
  intro segment mem
  have special : (s.isEmpty && !(Kind.network usual).isSpecial) = false := Bool.and_false _
  rw [parsePathAfter, special, if_neg Bool.false_ne_true, parsePath, Path.ofSegments] at mem
  rcases Path.of_mem_append mem with old | rfl | ⟨mem, plain⟩
  · exact (List.not_mem_nil old).elim
  · exact Path.isShown_nil
  · obtain ⟨piece, memPiece, rfl⟩ := List.mem_map.1 mem
    exact Path.isShown_encode (Text.eq_false_of_mem_splitOnP memPiece) plain

theorem parsePathAfter_ne_nil (s : List Char) : parsePathAfter (.network usual) s ≠ [] := by
  have special : (s.isEmpty && !(Kind.network usual).isSpecial) = false := Bool.and_false _
  rw [parsePathAfter, special, if_neg Bool.false_ne_true, parsePath, Path.ofSegments]
  refine Path.append_ne_nil [] ?_
  rw [Ne, List.map_eq_nil_iff]
  exact List.splitOnP_ne_nil _ _

/-! ### Authorities -/

/-- What is known of an authority that has been read, if no port stands for the usual one. -/
structure Authority.IsShown (usual : Nat) (a : Authority) : Prop where
  /-- The name of the user needs no more encoding. -/
  user : IsKept isUserByte a.user
  /-- Nor does the password. -/
  password : IsKept isUserByte a.password
  /-- The host has been read. -/
  host : ∃ s, Host.parse s = .ok a.host
  /-- The port has 16 bits and is not the one of the scheme. -/
  port : ∀ p ∈ a.port, p < 65536 ∧ p ≠ usual

theorem of_parsePort {digits : List Char} {port : Option Nat}
    (h : parsePort (.network usual) digits = .ok port) : ∀ p ∈ port, p < 65536 ∧ p ≠ usual := by
  obtain ⟨n, number, h⟩ := Except.bind_eq_ok_iff.1 h
  have small : n < 65536 := by
    unfold portNumber at number
    split at number
    next =>
      split at number
      next small => exact Except.ok.inj number ▸ small
      next => cases number
    next => cases number
  split at h
  next =>
    obtain rfl := Except.ok.inj h
    exact fun p none => (Option.not_mem_none p none).elim
  next given =>
    obtain rfl := Except.ok.inj h
    rintro p ⟨⟩
    rw [Bool.or_eq_true, not_or, decide_eq_true_eq] at given
    exact ⟨small, fun same => given.2 (congrArg some same.symm)⟩

theorem of_parseHostPort {s : List Char} {host : Host} {port : Option Nat}
    (h : parseHostPort (.network usual) s = .ok (host, port)) :
    (∃ t, Host.parse t = .ok host) ∧ ∀ p ∈ port, p < 65536 ∧ p ≠ usual := by
  unfold parseHostPort at h
  obtain ⟨read, parsed, h⟩ := Except.bind_eq_ok_iff.1 h
  have parsed : Host.parse (spanHost false s).1 = .ok read := by
    simp only [parseHost, Kind.isSpecial, if_true] at parsed
    split at parsed
    next => cases parsed
    next => exact parsed
  cases after : (spanHost false s).2 with
  | nil =>
      simp only [after] at h
      cases h
      exact ⟨⟨_, parsed⟩, fun p none => (Option.not_mem_none p none).elim⟩
  | cons colon digits =>
      simp only [after] at h
      split at h
      next => cases h
      next =>
        obtain ⟨p, number, h⟩ := Except.bind_eq_ok_iff.1 h
        cases h
        exact ⟨⟨_, parsed⟩, of_parsePort number⟩

theorem isShown_of_parseAuthority {s rest : List Char} {a : Authority}
    (h : parseAuthority (.network usual) s = .ok (a, rest)) : a.IsShown usual := by
  have nothing : IsKept isUserByte [] := fun _ mem => (List.not_mem_nil mem).elim
  unfold parseAuthority at h
  dsimp only at h
  split at h
  next =>
    obtain ⟨⟨host, port⟩, parsed, h⟩ := Except.bind_eq_ok_iff.1 h
    cases h
    obtain ⟨read, number⟩ := of_parseHostPort parsed
    exact ⟨nothing, nothing, read, number⟩
  next info hostPort _ =>
    split at h
    next => cases h
    next =>
      obtain ⟨⟨host, port⟩, parsed, h⟩ := Except.bind_eq_ok_iff.1 h
      split at h
      next => cases h
      next =>
        cases h
        obtain ⟨read, number⟩ := of_parseHostPort parsed
        exact ⟨Percent.isKept_encode closed_isUserByte _,
          Percent.isKept_encode closed_isUserByte _, read, number⟩

/-! ### Addresses -/

/-- What is known of an address of a network scheme that has been read. -/
structure IsShownAs (usual : Nat) (u : Url) (a : Authority) (path : List (List Char)) : Prop where
  network : Kind.ofScheme u.scheme = .network usual
  place : u.place = .at a path
  /-- The authority has been read. -/
  authority : a.IsShown usual
  /-- There is always a path. -/
  path_ne_nil : path ≠ []
  /-- Its segments have been read. -/
  segments : ∀ s ∈ path, Path.IsShown s
  /-- The query needs no more encoding. -/
  query : ∀ q ∈ u.query, IsKept (isQueryByte (.network usual)) q
  /-- Nor does the fragment. -/
  fragment : ∀ f ∈ u.fragment, IsKept isFragmentByte f

theorem isKept_of_query? {s q : List Char} (h : q ∈ query? (.network usual) s) :
    IsKept (isQueryByte (.network usual)) q := by
  unfold query? at h
  split at h
  next => exact Option.some.inj h ▸ Percent.isKept_encode closed_isQueryByte _
  next => cases h

theorem isKept_of_fragment? {s f : List Char} (h : f ∈ fragment? s) : IsKept isFragmentByte f := by
  unfold fragment? at h
  split at h
  next => cases h
  next => exact Option.some.inj h ▸ Percent.isKept_encode closed_isFragmentByte _

/-- The parts of an address that has been read. -/
theorem exists_isShownAs {s : List Char} {u : Url} (read : ofChars s = .ok u)
    (network : Kind.ofScheme u.scheme = .network usual) : ∃ a path, u.IsShownAs usual a path := by
  unfold ofChars at read
  split at read
  next => cases read
  next word rest _ =>
    obtain ⟨⟨found, after⟩, parsed, read⟩ := Except.bind_eq_ok_iff.1 read
    obtain rfl := Except.ok.inj read
    change Kind.ofScheme word = _ at network
    rw [network] at parsed ⊢
    change parseNetwork (.network usual) rest = _ at parsed
    obtain ⟨⟨authority, tail⟩, front, found⟩ := Except.bind_eq_ok_iff.1 parsed
    cases found
    exact ⟨authority, _, network, rfl, isShown_of_parseAuthority front, parsePathAfter_ne_nil _,
      isShown_of_mem_parsePathAfter, fun q mem => isKept_of_query? mem,
      fun f mem => isKept_of_fragment? mem⟩

/-! ### Putting addresses together -/

/-- The query and the fragment with their marks. -/
def marked (query fragment : Option (List Char)) : List Char :=
  query.elim [] (fun q => '?' :: q) ++ fragment.elim [] (fun f => '#' :: f)

/-- The form of an address of a network scheme, part by part. -/
def formOf (word : List Char) (a : Authority) (path : List (List Char))
    (query fragment : Option (List Char)) : List Char :=
  word ++ ':' :: '/' :: '/' :: (a.text ++ (Path.text path ++ marked query fragment))

theorem IsShownAs.chars_eq {u : Url} {a : Authority} {path : List (List Char)}
    (h : u.IsShownAs usual a path) : u.chars = formOf u.scheme a path u.query u.fragment := by
  rw [chars, h.place, formOf, suffix, marked]
  simp [Place.text]

/-! ### Authorities are read back -/

/-- The host and the port as they stand in an address. -/
def Authority.hostPort (a : Authority) : List Char :=
  a.host.text ++ a.port.elim [] fun p => ':' :: decimal p

theorem Authority.text_eq (a : Authority) : a.text = a.credentials ++ a.hostPort :=
  List.append_assoc _ _ _

namespace Authority.IsShown

variable {a : Authority} (h : a.IsShown usual)

include h

theorem isShown_host : a.host.IsShown :=
  have ⟨_, read⟩ := h.host
  Host.isShown_of_parse read

theorem hostPort_ne_nil : a.hostPort ≠ [] :=
  List.append_ne_nil_of_left_ne_nil h.isShown_host.ne_nil _

theorem isAuthorityChar_hostPort : ∀ c ∈ a.hostPort, isAuthorityChar c = true := by
  refine List.forall_mem_append.2 ⟨h.isShown_host.chars, ?_⟩
  cases a.port with
  | none => exact fun c mem => (List.not_mem_nil mem).elim
  | some p => exact List.forall_mem_cons.2 ⟨by decide, isAuthorityChar_decimal p⟩

/-- No character of an authority ends it. -/
theorem isSegmentChar_text : ∀ c ∈ a.text, isSegmentChar c = true := by
  have user : ∀ c ∈ a.user, isSegmentChar c = true := h.user.of (by decide)
  have password : ∀ c ∈ a.password, isSegmentChar c = true := h.password.of (by decide)
  have colon : isSegmentChar ':' = true := by decide
  have ends : ∀ c ∈ ['@'], isSegmentChar c = true := List.all_iff_forall_prop.1 (by decide)
  have credentials : ∀ c ∈ a.credentials, isSegmentChar c = true := by
    unfold credentials
    split
    next => exact fun c mem => (List.not_mem_nil mem).elim
    next =>
      split
      next => exact List.forall_mem_append.2 ⟨user, ends⟩
      next =>
        have both := List.forall_mem_append.2 ⟨user, List.forall_mem_cons.2 ⟨colon, password⟩⟩
        exact List.forall_mem_append.2 ⟨both, ends⟩
  rw [text_eq, List.forall_mem_append]
  exact ⟨credentials, fun c mem =>
    (isSegmentChar_of_isAuthorityChar (h.isAuthorityChar_hostPort c mem)).1⟩

theorem isEmpty_host : a.host.isEmpty = false := by
  have some := h.isShown_host.ne_nil
  unfold Host.isEmpty
  split
  next name eq =>
    rw [eq] at some
    exact List.isEmpty_eq_false_iff.2 some
  next => rfl

/-- The host and the port are read back. -/
theorem parseHostPort_eq :
    parseHostPort (.network usual) a.hostPort = .ok (a.host, a.port) := by
  obtain ⟨s, read⟩ := h.host
  have notEmpty : a.host.text.isEmpty = false :=
    List.isEmpty_eq_false_iff.2 h.isShown_host.ne_nil
  have again : parseHost (.network usual) a.host.text = .ok a.host := by
    simp only [parseHost, Kind.isSpecial, notEmpty, Bool.false_eq_true, ↓reduceIte,
      Host.parse_text read]
  rw [parseHostPort, hostPort]
  cases port : a.port with
  | none =>
      rw [Host.spanHost_text read rfl]
      change (parseHost (.network usual) a.host.text).bind _ = _
      rw [again]
      rfl
  | some p =>
      obtain ⟨small, other⟩ := h.port p port
      have colon : spanHost false (':' :: decimal p) = ([], ':' :: decimal p) := rfl
      rw [Option.elim_some, Host.spanHost_text read colon]
      change (parseHost (.network usual) a.host.text).bind _ = _
      rw [again]
      change (if a.host.isEmpty = true then _ else
        (parsePort (.network usual) (decimal p)).bind fun port => .ok (a.host, port)) = _
      rw [h.isEmpty_host, parsePort_decimal small, if_neg other.symm]
      rfl

end Authority.IsShown

/-- A text is cut at the last mark in it. -/
theorem splitAtLast_append {mark : Char} (before : List Char) {after : List Char}
    (h : ∀ c ∈ after, c ≠ mark) :
    splitAtLast mark (before ++ mark :: after) = some (before, after) := by
  have inside : ∀ c ∈ after.reverse, decide (c ≠ mark) = true := fun c mem =>
    decide_eq_true (h c (List.mem_reverse.1 mem))
  have ends : ∀ c ∈ (mark :: before.reverse).head?, decide (c ≠ mark) = false := by
    rintro c ⟨⟩
    exact decide_eq_false (not_not.2 rfl)
  have reversed : (before ++ mark :: after).reverse = after.reverse ++ mark :: before.reverse := by
    simp
  obtain ⟨front, back⟩ := span_append inside ends
  rw [splitAtLast, reversed, front, back, List.reverse_reverse]
  dsimp only
  rw [List.reverse_reverse]

namespace Authority

/-- The user and the password without the at sign after them. -/
def info (a : Authority) : List Char :=
  if a.password.isEmpty then a.user else a.user ++ ':' :: a.password

theorem credentials_eq (a : Authority) : a.credentials
    = if a.user.isEmpty && a.password.isEmpty then [] else a.info ++ ['@'] := by
  unfold credentials info
  split
  next => rfl
  next => split <;> rfl

variable {a : Authority} (h : a.IsShown usual)

include h

/-- The user and the password are read back. -/
theorem IsShown.credentials_info : Url.credentials a.info = (a.user, a.password) := by
  have user : encoded isUserByte a.user = a.user := Percent.encode_of_kept h.user
  have password : encoded isUserByte a.password = a.password := Percent.encode_of_kept h.password
  have noColon : ∀ c ∈ a.user, decide (c ≠ ':') = true := h.user.of (by decide)
  unfold info
  split
  next empty =>
    have whole := List.takeWhile_eq_self_iff.2 noColon
    have nothing := List.dropWhile_eq_nil_iff.2 noColon
    rw [Url.credentials, whole, nothing, user, List.isEmpty_iff.1 empty]
    rfl
  next =>
    have ends : ∀ c ∈ (':' :: a.password).head?, decide (c ≠ ':') = false := by
      rintro c ⟨⟩
      rfl
    obtain ⟨front, back⟩ := span_append noColon ends
    rw [Url.credentials, front, back, user, List.drop_one, List.tail_cons, password]

/-- An authority is read back, and what follows it is left. -/
theorem IsShown.parseAuthority_eq {tail : List Char}
    (ends : ∀ c ∈ tail.head?, endsAuthority (.network usual) c = true) :
    parseAuthority (.network usual) (a.text ++ tail) = .ok (a, tail) := by
  have inside : ∀ c ∈ a.text, (!endsAuthority (.network usual) c) = true := by
    intro c mem
    obtain ⟨-, slash, mark⟩ := isSegmentChar_spec (h.isSegmentChar_text c mem)
    rw [endsAuthority, slash, mark]
    rfl
  have stops : ∀ c ∈ tail.head?, (!endsAuthority (.network usual) c) = false := fun c mem => by
    rw [ends c mem]
    rfl
  obtain ⟨front, back⟩ := span_append inside stops
  have noAt : ∀ c ∈ a.hostPort, c ≠ '@' := fun c mem =>
    (isSegmentChar_of_isAuthorityChar (h.isAuthorityChar_hostPort c mem)).2
  cases none : a.user.isEmpty && a.password.isEmpty with
  | true =>
      have text : a.text = a.hostPort := by
        rw [text_eq, credentials_eq, if_pos none, List.nil_append]
      have cut : splitAtLast '@' a.text = Option.none := text ▸ splitAtLast_of_not_mem noAt
      have same : a = ⟨[], [], a.host, a.port⟩ := by
        obtain ⟨user, password, host, port⟩ := a
        rw [Bool.and_eq_true, List.isEmpty_iff, List.isEmpty_iff] at none
        obtain ⟨rfl, rfl⟩ : user = [] ∧ password = [] := none
        rfl
      simp only [parseAuthority, front, back, cut]
      rw [text, h.parseHostPort_eq]
      exact congrArg Except.ok (congrArg (·, tail) same.symm)
  | false =>
      have text : a.text = a.info ++ '@' :: a.hostPort := by
        rw [text_eq, credentials_eq, if_neg (Bool.eq_false_iff.1 none), List.append_assoc]
        rfl
      have cut : splitAtLast '@' a.text = some (a.info, a.hostPort) :=
        text ▸ splitAtLast_append a.info noAt
      have notEmpty : a.hostPort.isEmpty = false := List.isEmpty_eq_false_iff.2 h.hostPort_ne_nil
      simp only [parseAuthority, front, back, cut, notEmpty, Bool.and_false, Bool.false_and,
        Bool.false_eq_true, ↓reduceIte, h.parseHostPort_eq, h.credentials_info]
      change (if (a.host.isEmpty && _) = true then _ else _) = _
      rw [h.isEmpty_host]
      rfl

end Authority

/-! ### Paths, queries and fragments are read back -/

/-- Shown segments are read as they are, a path without segments as an empty one. -/
theorem parsePathAfter_shown {path : List (List Char)} (h : ∀ s ∈ path, Path.IsShown s) :
    parsePathAfter (.network usual) (Path.text path) = rooted path := by
  have shown : ∀ s ∈ rooted path, Path.IsShown s := by
    unfold rooted
    split
    next => exact List.forall_mem_singleton.2 Path.isShown_nil
    next => exact h
  have same : (rooted path).map Path.encode = rooted path := by
    refine (List.map_congr_left fun s mem => ?_).trans (List.map_id _)
    exact Percent.encode_of_kept (shown s mem).kept
  rw [parsePathAfter_text usual fun s mem => (h s mem).chars, Path.ofSegments, same,
    Path.append_of_plain [] fun s mem => (shown s mem).plain, List.nil_append]

section Marked

variable {query fragment : Option (List Char)}

/-- The query and the fragment begin with a mark. -/
theorem isMark_head?_marked : ∀ c ∈ (marked query fragment).head?, isMark c = true := by
  intro c mem
  unfold marked at mem
  cases query with
  | some q =>
      obtain rfl := Option.some.inj mem
      rfl
  | none =>
      cases fragment with
      | some f =>
          obtain rfl := Option.some.inj mem
          rfl
      | none => cases mem

variable (keptQuery : ∀ q ∈ query, IsKept (isQueryByte (.network usual)) q)
  (keptFragment : ∀ f ∈ fragment, IsKept isFragmentByte f)

include keptQuery in
theorem fromNumberSign_marked :
    (marked query fragment).dropWhile (· ≠ '#') = fragment.elim [] (fun f => '#' :: f) ∧
      query? (.network usual) (marked query fragment) = query := by
  have ends : ∀ c ∈ (fragment.elim [] fun f => '#' :: f).head?, decide (c ≠ '#') = false := by
    cases fragment with
    | none => exact fun c none => (Option.not_mem_none c none).elim
    | some f =>
        rintro c ⟨⟩
        rfl
  cases query with
  | none =>
      rw [marked, Option.elim_none, List.nil_append]
      refine ⟨dropWhile_of_head? ends, ?_⟩
      cases fragment <;> rfl
  | some q =>
      have kept := keptQuery q rfl
      rw [isQueryByte_network] at kept
      have inside : ∀ c ∈ q, decide (c ≠ '#') = true := kept.of (by decide)
      obtain ⟨front, back⟩ := span_append inside ends
      have coded : encoded (isQueryByte (.network usual)) q = q := Percent.encode_of_kept kept
      rw [marked, Option.elim_some, List.cons_append]
      refine ⟨?_, ?_⟩
      · rw [List.dropWhile_cons_of_pos (by decide), back]
      · rw [query?, front, coded]

include keptQuery keptFragment in
theorem fragment?_marked : fragment? (marked query fragment) = fragment := by
  rw [fragment?, (fromNumberSign_marked keptQuery).1]
  cases fragment with
  | none => rfl
  | some f =>
      have coded : encoded isFragmentByte f = f := Percent.encode_of_kept (keptFragment f rfl)
      rw [Option.elim_some]
      exact congrArg some coded

include keptQuery keptFragment in
theorem isBlank_marked : ∀ c ∈ marked query fragment, isBlank c = false := by
  refine List.forall_mem_append.2 ⟨?_, ?_⟩
  · cases query with
    | none => exact fun c mem => (List.not_mem_nil mem).elim
    | some q =>
        have kept := keptQuery q rfl
        rw [isQueryByte_network] at kept
        exact List.forall_mem_cons.2 ⟨by decide, kept.of (by decide)⟩
  · cases fragment with
    | none => exact fun c mem => (List.not_mem_nil mem).elim
    | some f => exact List.forall_mem_cons.2 ⟨by decide, (keptFragment f rfl).of (by decide)⟩

end Marked

/-! ### Addresses are read back -/

/-- The parts of an address are read back from its form. -/
theorem ofChars_formOf {word : List Char} (network : Kind.ofScheme word = .network usual)
    {a : Authority} {path : List (List Char)} {query fragment : Option (List Char)}
    (authority : a.IsShown usual)
    (segments : ∀ s ∈ path, Path.IsShown s)
    (keptQuery : ∀ q ∈ query, IsKept (isQueryByte (.network usual)) q)
    (keptFragment : ∀ f ∈ fragment, IsKept isFragmentByte f) :
    ofChars (formOf word a path query fragment)
      = .ok ⟨word, .at a (rooted path), query, fragment⟩ := by
  have visible : ∀ c ∈ formOf word a path query fragment, isBlank c = false := by
    have scheme : ∀ c ∈ word, isBlank c = false := by
      have none : word.any isBlank = false :=
        of_network (p := (List.any · isBlank = false)) (by decide) network
      exact fun c mem => Bool.eq_false_iff.2 (List.any_eq_false.1 none c mem)
    have mark : ∀ c ∈ [':', '/', '/'], isBlank c = false :=
      List.all_iff_forall_prop.1 (by decide)
    have host : ∀ c ∈ a.text, isBlank c = false := fun c mem =>
      (isSegmentChar_spec (authority.isSegmentChar_text c mem)).1
    have inside : ∀ c ∈ Path.text path, isBlank c = false :=
      forall_mem_text (by decide) fun s mem c here =>
        (isSegmentChar_spec ((segments s mem).chars c here)).1
    exact List.forall_mem_append.2 ⟨scheme, List.forall_mem_append.2 ⟨mark, List.forall_mem_append.2
      ⟨host, List.forall_mem_append.2 ⟨inside, isBlank_marked keptQuery keptFragment⟩⟩⟩⟩
  have noMark : ∀ c ∈ Path.text path, (!isMark c) = true :=
    forall_mem_text (by decide) fun s mem c here => by
      rw [(isSegmentChar_spec ((segments s mem).chars c here)).2.2]
      rfl
  have stops : ∀ c ∈ (marked query fragment).head?, (!isMark c) = false := fun c mem => by
    rw [isMark_head?_marked c mem]
    rfl
  obtain ⟨before, after⟩ := span_append noMark stops
  have ends : ∀ c ∈ (Path.text path ++ marked query fragment).head?,
      endsAuthority (.network usual) c = true := by
    intro c mem
    cases path with
    | nil =>
        rw [endsAuthority, isMark_head?_marked c mem, Bool.or_true]
    | cons segment rest =>
        obtain rfl := Option.some.inj mem
        rfl
  have notEmpty : a.text ≠ [] := by
    rw [Authority.text_eq]
    exact List.append_ne_nil_of_right_ne_nil _ authority.hostPort_ne_nil
  have place : parseNetwork (.network usual)
      ('/' :: '/' :: (a.text ++ (Path.text path ++ marked query fragment)))
        = .ok (.at a (rooted path), marked query fragment) := by
    rw [parseNetwork, dropWhile_isSlash notEmpty authority.isSegmentChar_text,
      authority.parseAuthority_eq ends]
    change Except.ok (Place.at a (parsePathAfter (.network usual)
      (beforeMark (Path.text path ++ marked query fragment))),
      fromMark (Path.text path ++ marked query fragment)) = _
    rw [beforeMark, fromMark, before, after, parsePathAfter_shown segments]
  rw [ofChars, significant_of_visible visible, formOf, scheme?_network network]
  change (parsePlace (Kind.ofScheme word) _ >>= _) = _
  rw [network, parsePlace, place]
  change Except.ok (Url.mk _ _ (query? (.network usual) (marked query fragment))
    (fragment? (marked query fragment))) = _
  rw [(fromNumberSign_marked keptQuery).2, fragment?_marked keptQuery keptFragment]

/-- An address of a network scheme is read back from its form. -/
theorem ofChars_chars {s : List Char} {u : Url} (read : ofChars s = .ok u)
    (network : Kind.ofScheme u.scheme = .network usual) : ofChars u.chars = .ok u := by
  obtain ⟨a, path, h⟩ := exists_isShownAs read network
  rw [h.chars_eq, ofChars_formOf network h.authority h.segments h.query h.fragment,
    rooted_of_ne_nil h.path_ne_nil, ← h.place]

end WebDriverClient.Url
