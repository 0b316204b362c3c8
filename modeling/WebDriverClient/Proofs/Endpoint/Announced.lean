/-
**The address that is announced is the one that is used.**

In a line with the words of an announcement, a host that is an IP address in any form, a colon and
a port, the host is told from the port by the last colon.  Brackets are put around an IPv6 address
that has none, and the address that is read has that host and, if it is not the one of the scheme,
that port.  What stands before the words does not matter as long as they do not stand there too,
and neither does what follows the port after a blank.

Main definitions:

* `Url.effectivePort?` — the port that is asked at an address.

Main results:

* `Announcement.hostPort?_announcement` — the host and the port as they are written;
* `Announcement.parse?_announcement` — **the address of an announcement**.
-/

import WebDriverClient.Endpoint.Announcement
import WebDriverClient.Proofs.Url.Reading
import WebDriverClient.Proofs.Url.Written

set_option autoImplicit false

namespace WebDriverClient

/-- The port that is asked at an address: its own or that of its scheme. -/
def Url.effectivePort? (u : Url) : Option Nat :=
  match u.place with
  | .at authority _ => authority.port.or (Url.Kind.ofScheme u.scheme).defaultPort
  | _ => none

namespace Announcement

open Url

/-! ### The words -/

theorem dropWords?_eq_some_iff {w s t : List Char} : dropWords? w s = some t ↔ s = w ++ t := by
  induction w generalizing s with
  | nil => simp [dropWords?]
  | cons d w ih =>
      cases s with
      | nil => simp [dropWords?]
      | cons c s =>
          by_cases same : d = c
          · subst same
            simp [dropWords?, ih]
          · simp [dropWords?, same, Ne.symm same]

/-- The words do not begin inside of what stands before them: their first letter is not among the
others. -/
theorem words_infix_of_append {before after t : List Char} (notEmpty : before ≠ [])
    (h : before ++ (words ++ after) = words ++ t) : words <:+: before := by
  obtain ⟨rest, eq, tail⟩ | ⟨rest, eq, -⟩ := List.append_eq_append_iff.1 h
  · cases rest with
    | nil =>
        rw [List.append_nil] at eq
        exact eq ▸ List.infix_refl _
    | cons c rest =>
        have first : c = 'L' := (List.cons.inj tail).1.symm
        obtain ⟨d, front, rfl⟩ := List.exists_cons_of_ne_nil notEmpty
        have later : c ∈ words.tail := by
          rw [eq]
          exact List.mem_append_right _ List.mem_cons_self
        exact absurd (first ▸ later) (by decide)
  · exact ⟨[], rest, eq.symm⟩

/-! ### The host and the port as they are written -/

theorem splitHostPort?_eq_none {c : Char} {s : List Char} (h : ∀ d ∈ s, d ≠ ':') :
    splitHostPort? (c :: s) = none := by
  induction s generalizing c with
  | nil => rfl
  | cons d s ih =>
      obtain ⟨here, later⟩ := List.forall_mem_cons.1 h
      rw [splitHostPort?, ih later]
      intro e after eq
      exact here (List.cons.inj eq).1

/-- A host that goes on later goes on here. -/
theorem splitHostPort?_cons {c : Char} {s : List Char} {found : List Char × List Char}
    (h : splitHostPort? s = some found) :
    splitHostPort? (c :: s) = some (c :: found.1, found.2) := by
  rw [splitHostPort?.eq_def]
  simp only [h]

/-- The host goes on to the last colon. -/
theorem splitHostPort?_append {host digits : List Char} (notEmpty : host ≠ [])
    (hasDigit : digits ≠ []) (all : ∀ c ∈ digits, c.isDigit = true) :
    splitHostPort? (host ++ ':' :: digits) = some (host, digits) := by
  have decimal : ∀ c ∈ digits, Text.isDecimalDigit c = true := fun c mem =>
    Text.of_isDigit (p := (Text.isDecimalDigit · = true)) (by decide) (all c mem)
  have noColon : ∀ c ∈ digits, c ≠ ':' := fun c mem =>
    Text.of_isDigit (p := (· ≠ ':')) (by decide) (all c mem)
  induction host with
  | nil => exact absurd rfl notEmpty
  | cons c host ih =>
      cases host with
      | nil =>
          obtain ⟨d, after, rfl⟩ := List.exists_cons_of_ne_nil hasDigit
          have nothing : splitHostPort? (':' :: d :: after) = none :=
            splitHostPort?_eq_none noColon
          rw [List.cons_append, List.nil_append, splitHostPort?, nothing]
          simp only [decimal d List.mem_cons_self, ↓reduceIte, List.takeWhile_eq_self_iff.2 decimal]
      | cons e host =>
          exact splitHostPort?_cons (ih (List.cons_ne_nil _ _))

theorem hostPort?_append {before after : List Char} (absent : ¬ words <:+: before)
    {found : List Char × List Char}
    (here : splitHostPort? (after.takeWhile (!Text.isBlank ·)) = some found) :
    hostPort? (before ++ (words ++ after)) = some found := by
  induction before with
  | nil =>
      have start : dropWords? words (words ++ after) = some after := dropWords?_eq_some_iff.2 rfl
      obtain ⟨c, rest, eq⟩ : ∃ c rest, words ++ after = c :: rest := ⟨_, _, rfl⟩
      rw [eq] at start
      rw [List.nil_append, eq, hostPort?, start, Option.bind_some, here]
  | cons c before ih =>
      have skipped : dropWords? words (c :: (before ++ (words ++ after))) = none := by
        refine Option.eq_none_iff_forall_ne_some.2 fun t start => absent ?_
        exact words_infix_of_append (List.cons_ne_nil c before) (dropWords?_eq_some_iff.1 start)
      have later : ¬ words <:+: before := fun inside => absent (List.infix_cons inside)
      rw [List.cons_append, hostPort?, skipped, Option.bind_none]
      exact ih later

variable {before rest s : List Char} {host : Host} {port : Nat}

/-- Brackets are put around an address with colons that has none. -/
theorem isEnclosed_bracket (h : host.IsWritten s) : host.IsEnclosed (bracket s) := by
  cases h with
  | enclosed h =>
      have asIs : bracket s = s := by
        cases h with
        | ipv4 a =>
            have noColon : a.text.contains ':' = false := by
              rw [Bool.eq_false_iff]
              intro colon
              rcases a.isDigit_or_dot ':' (List.contains_iff_mem.1 colon) with digit | dot
              · exact absurd digit (by decide)
              · exact absurd dot (by decide)
            rw [bracket, noColon]
            rfl
        | ipv6 => simp [bracket]
      rw [asIs]
      exact h
  | bare written =>
      have colon : s.contains ':' = true := List.contains_iff_mem.2 written.colon_mem
      have noBracket : s.head? ≠ some '[' := fun opening => by
        have here := written.isAddressChar '[' (List.mem_of_mem_head? opening)
        exact absurd here (by decide)
      have around : bracket s = '[' :: (s ++ [']']) := by
        refine if_pos ?_
        rw [colon, decide_eq_true noBracket]
        rfl
      rw [around]
      exact .ipv6 written

theorem ne_nil_of_isWritten (h : host.IsWritten s) : s ≠ [] := by
  cases h with
  | enclosed h => exact h.ne_nil
  | bare written => exact List.ne_nil_of_mem written.colon_mem

theorem isBlank_of_isWritten (h : host.IsWritten s) : ∀ c ∈ s, Text.isBlank c = false := by
  have address {c : Char} (h : Ipv6.isAddressChar c = true) : Text.isBlank c = false :=
    Ipv6.of_isAddressChar (p := (Text.isBlank · = false)) (List.all_iff_forall_prop.1 (by decide)) h
  intro c mem
  cases h with
  | enclosed h =>
      rcases h.mem c mem with inside | rfl | rfl
      · exact address inside
      · decide
      · decide
  | bare written => exact address (written.isAddressChar c mem)

/-! ### The address -/

/-- The host and the port as they are written. -/
theorem hostPort?_announcement (absent : ¬ words <:+: before) (written : host.IsWritten s)
    (blank : ∀ c ∈ rest.head?, Text.isBlank c = true) :
    hostPort? (before ++ words ++ s ++ ':' :: decimal port ++ rest) = some (s, decimal port) := by
  have visible : ∀ c ∈ s ++ ':' :: decimal port, (!Text.isBlank c) = true := by
    have digits : ∀ c ∈ decimal port, Text.isBlank c = false := fun c mem =>
      Text.of_isDigit (p := (Text.isBlank · = false)) (by decide) (isDigit_decimal port c mem)
    have all : ∀ c ∈ s ++ ':' :: decimal port, Text.isBlank c = false :=
      List.forall_mem_append.2
        ⟨isBlank_of_isWritten written, List.forall_mem_cons.2 ⟨by decide, digits⟩⟩
    intro c mem
    rw [all c mem]
    rfl
  have ends : ∀ c ∈ rest.head?, (!Text.isBlank c) = false := by
    intro c mem
    rw [blank c mem]
    rfl
  have found : splitHostPort? (((s ++ ':' :: decimal port) ++ rest).takeWhile (!Text.isBlank ·))
      = some (s, decimal port) := by
    rw [(span_append visible ends).1]
    exact splitHostPort?_append (ne_nil_of_isWritten written) (decimal_ne_nil port)
      (isDigit_decimal port)
  have line : before ++ words ++ s ++ ':' :: decimal port ++ rest
      = before ++ (words ++ ((s ++ ':' :: decimal port) ++ rest)) := by
    simp only [List.append_assoc]
  rw [line]
  exact hostPort?_append absent found

/-- The address of a host and a port. -/
theorem address?_isWritten (written : host.IsWritten s) (small : port < 65536) :
    address? s (decimal port)
      = some (httpAt (host, if 80 = port then none else some port)
          (Path.ofSegments false (rooted []))) := by
  have enclosed := isEnclosed_bracket written
  have number : port? (decimal port) = some port := by
    simp [port?, numeral?_decimal, small]
  have chars : ∀ c ∈ bracket s ++ ':' :: decimal port, isAuthorityChar c = true := by
    refine List.forall_mem_append.2
      ⟨fun c mem => ?_, List.forall_mem_cons.2 ⟨by decide, isAuthorityChar_decimal port⟩⟩
    rcases enclosed.mem c mem with inside | rfl | rfl
    · exact Ipv6.of_isAddressChar (p := (isAuthorityChar · = true))
        (List.all_iff_forall_prop.1 (by decide)) inside
    · decide
    · decide
  have notEmpty : bracket s ++ ':' :: decimal port ≠ [] :=
    List.append_ne_nil_of_left_ne_nil enclosed.ne_nil _
  have read : ofChars (httpText (bracket s ++ ':' :: decimal port) []) = _ :=
    ofChars_http notEmpty chars fun segment mem => nomatch mem
  have text : "http://".toList ++ bracket s ++ ':' :: decimal port
      = httpText (bracket s ++ ':' :: decimal port) [] := by
    simp [httpText, Path.text]
  rw [address?, number]
  change (ofChars ("http://".toList ++ bracket s ++ ':' :: decimal port)).toOption = _
  rw [text, read, parseHostPort_isEnclosed enclosed small]
  rfl

/-- The address of an announcement has the host and the port that are announced. -/
theorem parse?_announcement (absent : ¬ words <:+: before) (written : host.IsWritten s)
    (small : port < 65536) (blank : ∀ c ∈ rest.head?, Text.isBlank c = true) :
    ∃ url, parse? (before ++ words ++ s ++ ':' :: decimal port ++ rest) = some url
      ∧ url.scheme = "http".toList ∧ url.host? = some host ∧ url.effectivePort? = some port := by
  refine ⟨httpAt (host, if 80 = port then none else some port) (Path.ofSegments false (rooted [])),
    ?_, rfl, ?_, ?_⟩
  · rw [parse?, hostPort?_announcement absent written blank]
    exact address?_isWritten written small
  · simp [Url.host?, httpAt, (isEnclosed_bracket written).isEmpty_eq]
  · by_cases usual : 80 = port
    · subst usual
      rfl
    · simp [Url.effectivePort?, httpAt, usual]

/-- The IPv6 address that stands for the IPv4 address of this computer. -/
def mappedLoopback : Ipv6 := ⟨[0, 0, 0, 0, 0, 0xFFFF, 0x7F00, 1], rfl⟩

theorem isWritten_mappedLoopback : mappedLoopback.IsWritten "::ffff:127.0.0.1".toList := by
  have group : Ipv6.Group 0xFFFF "ffff".toList := ⟨by decide, numeral_toDigits (by decide) 0xFFFF⟩
  have row : Ipv6.Row true [0xFFFF, 0x7F00, 1] "ffff:127.0.0.1".toList :=
    .cons group (.ipv4 ⟨0x7F000001⟩ rfl rfl)
  exact .gap 5 (by decide) .empty (.row row) rfl

/-- An address without brackets that is partly an IPv4 address, and the port of the scheme. -/
theorem parse?_announcement_mappedLoopback :
    ∃ url, parse? "INFO\tListening on ::ffff:127.0.0.1:80 (ready)".toList = some url
      ∧ url.scheme = "http".toList ∧ url.host? = some (.ipv6 mappedLoopback)
      ∧ url.effectivePort? = some 80 := by
  have absent : ¬ words <:+: "INFO\t".toList := by decide
  have small : 80 < 65536 := by decide
  have blank : ∀ c ∈ (' ' :: "(ready)".toList).head?, Text.isBlank c = true := by
    intro c mem
    exact Option.some.inj mem ▸ rfl
  have line : "INFO\tListening on ::ffff:127.0.0.1:80 (ready)".toList
      = "INFO\t".toList ++ words ++ "::ffff:127.0.0.1".toList ++ ':' :: decimal 80
        ++ ' ' :: "(ready)".toList := by
    decide +kernel
  rw [line]
  exact parse?_announcement absent (.bare isWritten_mappedLoopback) small blank

end Announcement

end WebDriverClient
