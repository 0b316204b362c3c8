/-
**Addresses are read part by part.**

An address of the scheme `http` whose authority holds only characters that may stand there is cut
where it was put together: after the scheme, after the authority and at the slashes of its path.  So
reading it comes down to reading its host and its port, and to adding its segments to a path.

Main definitions:

* `isSegmentChar` — the characters that may stand in a segment;
* `rooted` — the segments that are read of a path, which has at least one;
* `httpText`, `httpAt` — the address of a path at an authority, as a text and as it is read.

Main results:

* `ofChars_http` — **how an address is read**.
-/

import Mathlib.Data.List.TakeWhile
import WebDriverClient.Proofs.Url.Characters
import WebDriverClient.Proofs.Wire.Segments
import WebDriverClient.Url.Parse

set_option autoImplicit false

namespace WebDriverClient.Url

/-! ### Cutting -/

/-- A text is cut at the first character that ends a part. -/
theorem span_append {p : Char → Bool} {before after : List Char}
    (inside : ∀ c ∈ before, p c = true) (ends : ∀ c ∈ after.head?, p c = false) :
    (before ++ after).takeWhile p = before ∧ (before ++ after).dropWhile p = after := by
  rw [List.takeWhile_append_of_pos inside, List.dropWhile_append_of_pos inside]
  cases after with
  | nil => exact ⟨List.append_nil before, rfl⟩
  | cons c rest =>
      have stop : ¬ p c = true := Bool.not_eq_true _ ▸ ends c rfl
      rw [List.takeWhile_cons_of_neg stop, List.dropWhile_cons_of_neg stop, List.append_nil]
      exact ⟨rfl, rfl⟩

theorem dropWhile_of_head? {p : Char → Bool} {s : List Char} (h : ∀ c ∈ s.head?, p c = false) :
    s.dropWhile p = s := by
  cases s with
  | nil => rfl
  | cons c rest => exact List.dropWhile_cons_of_neg (Bool.not_eq_true _ ▸ h c rfl)

/-- All characters of a text without blanks count. -/
theorem significant_of_visible {s : List Char} (h : ∀ c ∈ s, isBlank c = false) :
    significant s = s := by
  have front : s.dropWhile isBlank = s :=
    dropWhile_of_head? fun c mem => h c (List.mem_of_mem_head? mem)
  have back : s.reverse.dropWhile isBlank = s.reverse :=
    dropWhile_of_head? fun c mem => h c (List.mem_reverse.1 (List.mem_of_mem_head? mem))
  have counts : ∀ c ∈ s, (!isIgnored c) = true := by
    intro c mem
    have visible := h c mem
    rw [Bool.not_eq_true', Bool.eq_false_iff]
    intro ignored
    simp only [isIgnored, Bool.or_eq_true, decide_eq_true_eq] at ignored
    rcases ignored with (rfl | rfl) | rfl
    all_goals exact absurd visible (by decide)
  rw [significant, front, back, List.reverse_reverse, List.filter_eq_self.2 counts]

/-! ### Characters -/

/-- The character ends no segment and is not a blank. -/
def isSegmentChar (c : Char) : Bool := 0x20 < c.toNat && !"/\\?#".toList.contains c

theorem isSegmentChar_spec {c : Char} (h : isSegmentChar c = true) :
    isBlank c = false ∧ (∀ kind, isSlash kind c = false) ∧ isMark c = false := by
  simp only [isSegmentChar, Bool.and_eq_true, decide_eq_true_eq, Bool.not_eq_true'] at h
  obtain ⟨visible, other⟩ := h
  have different (d : Char) (mem : "/\\?#".toList.contains d = true) : c ≠ d := by
    rintro rfl
    exact absurd mem (Bool.eq_false_iff.1 other)
  have slash := different '/' (by decide)
  have backslash := different '\\' (by decide)
  have mark := different '?' (by decide)
  have number := different '#' (by decide)
  refine ⟨decide_eq_false (Nat.not_le_of_lt visible), fun kind => ?_, ?_⟩
  · simp [isSlash, slash, backslash]
  · simp [isMark, mark, number]

theorem isSegmentChar_of_isAuthorityChar {c : Char} (h : isAuthorityChar c = true) :
    isSegmentChar c = true ∧ c ≠ '@' := by
  simp only [isAuthorityChar, Bool.and_eq_true, decide_eq_true_eq, Bool.not_eq_true'] at h
  obtain ⟨visible, other⟩ := h
  constructor
  · have absent : "/\\?#".toList.contains c = false := by
      rw [Bool.eq_false_iff]
      intro mem
      have more : ∀ d ∈ "/\\?#".toList, "/\\?#@".toList.contains d = true :=
        List.all_iff_forall_prop.1 (by decide)
      exact absurd (more c (List.contains_iff_mem.1 mem)) (Bool.eq_false_iff.1 other)
    rw [isSegmentChar, absent, decide_eq_true visible]
    rfl
  · rintro rfl
    exact absurd other (by decide)

/-- The characters of the form of a text. -/
theorem isSegmentChar_form {s : String} :
    ∀ c ∈ Percent.encode Percent.isUnreserved s, isSegmentChar c = true :=
  fun _ mem => Percent.of_isCoded (p := (isSegmentChar · = true)) (by decide)
    (Percent.isCoded_of_mem mem)

/-! ### Authorities -/

/-- A text without at signs has no user before its host. -/
theorem splitAtLast_of_not_mem {mark : Char} {s : List Char} (h : ∀ c ∈ s, c ≠ mark) :
    splitAtLast mark s = none := by
  have all : s.reverse.dropWhile (· ≠ mark) = [] := by
    rw [List.dropWhile_eq_nil_iff]
    exact fun c mem => decide_eq_true (h c (List.mem_reverse.1 mem))
  rw [splitAtLast, all]

variable {kind : Kind} {authority : List Char} {segments : List (List Char)}

/-- A path begins with a slash. -/
theorem head?_text {c : Char} (h : c ∈ (Path.text segments).head?) : c = '/' := by
  cases segments with
  | nil => nomatch h
  | cons segment rest => exact (Option.some.inj h).symm

/-- An authority ends where the path begins. -/
theorem parseAuthority_append (chars : ∀ c ∈ authority, isAuthorityChar c = true) :
    parseAuthority kind (authority ++ Path.text segments)
      = (parseHostPort kind authority).map fun host =>
          (⟨[], [], host.1, host.2⟩, Path.text segments) := by
  have inside : ∀ c ∈ authority, (!endsAuthority kind c) = true := by
    intro c mem
    obtain ⟨-, slash, mark⟩ := isSegmentChar_spec (isSegmentChar_of_isAuthorityChar (chars c mem)).1
    rw [endsAuthority, slash kind, mark]
    rfl
  have ends : ∀ c ∈ (Path.text segments).head?, (!endsAuthority kind c) = false := by
    intro c mem
    rw [head?_text mem]
    rfl
  have noUser : splitAtLast '@' authority = none := splitAtLast_of_not_mem fun c mem =>
    (isSegmentChar_of_isAuthorityChar (chars c mem)).2
  obtain ⟨text, rest⟩ := span_append inside ends
  simp only [parseAuthority, text, rest, noUser]
  cases parseHostPort kind authority <;> rfl

/-! ### Paths -/

/-- The segments that are read of a path, which has at least one. -/
def rooted (segments : List (List Char)) : List (List Char) :=
  if segments.isEmpty then [[]] else segments

theorem rooted_of_ne_nil (h : segments ≠ []) : rooted segments = segments :=
  if_neg (mt List.isEmpty_iff.1 h)

theorem parsePathAfter_text (port : Nat)
    (chars : ∀ s ∈ segments, ∀ c ∈ s, isSegmentChar c = true) :
    parsePathAfter (.network port) (Path.text segments)
      = Path.ofSegments false (rooted segments) := by
  have slash (s) (mem : s ∈ segments) (c) (here : c ∈ s) : isSlash (.network port) c = false :=
    (isSegmentChar_spec (chars s mem c here)).2.1 _
  have special : ((Path.text segments).isEmpty && !(Kind.network port).isSpecial) = false :=
    Bool.and_false _
  rw [parsePathAfter, special, if_neg Bool.false_ne_true, parsePath]
  cases segments with
  | nil => rfl
  | cons segment rest =>
      have cut : (segment ++ Path.text rest).splitOnP (isSlash (.network port)) = segment :: rest :=
        Path.splitOnP_append_text rfl slash
      have dropped : dropSlash (.network port) (Path.text (segment :: rest))
          = segment ++ Path.text rest := rfl
      rw [dropped, cut]
      rfl

/-- The characters of a path are slashes and those of its segments. -/
theorem forall_mem_text {p : Char → Prop} (slash : p '/')
    (inside : ∀ s ∈ segments, ∀ c ∈ s, p c) : ∀ c ∈ Path.text segments, p c := by
  intro c mem
  obtain ⟨s, memSegment, mem⟩ := List.mem_flatMap.1 mem
  rcases List.mem_cons.1 mem with rfl | mem
  · exact slash
  · exact inside s memSegment c mem

theorem beforeMark_text (inside : ∀ c ∈ Path.text segments, isMark c = false) :
    beforeMark (Path.text segments) = Path.text segments
      ∧ fromMark (Path.text segments) = [] := by
  have all : ∀ c ∈ Path.text segments, (!isMark c) = true := fun c mem => by rw [inside c mem]; rfl
  exact ⟨List.takeWhile_eq_self_iff.2 all, List.dropWhile_eq_nil_iff.2 all⟩

/-! ### Addresses -/

/-- The address of a path at an authority. -/
def httpText (authority : List Char) (segments : List (List Char)) : List Char :=
  "http".toList ++ ':' :: '/' :: '/' :: (authority ++ Path.text segments)

/-- A scheme in lower case ends at the colon. -/
theorem scheme?_append {word : List Char} (chars : ∀ c ∈ word, isSchemeChar c = true)
    (alpha : word.head?.any Char.isAlpha = true) (lower : word.map Char.toLower = word)
    (rest : List Char) : scheme? (word ++ ':' :: rest) = some (word, rest) := by
  have ends : ∀ c ∈ (':' :: rest).head?, isSchemeChar c = false := fun c mem =>
    Option.some.inj mem ▸ rfl
  obtain ⟨front, after⟩ := span_append chars ends
  cases word with
  | nil => exact absurd alpha Bool.false_ne_true
  | cons c cs =>
      have first : c.isAlpha = true := alpha
      rw [scheme?, front, after]
      change (if c.isAlpha = true then some ((c :: cs).map Char.toLower, rest) else none) = _
      rw [if_pos first, lower]

theorem scheme?_http (rest : List Char) :
    scheme? ("http".toList ++ ':' :: rest) = some ("http".toList, rest) :=
  scheme?_append (List.all_iff_forall_prop.1 (by decide)) (by decide) (by decide) rest

/-- The slashes before an authority do not belong to it. -/
theorem dropWhile_isSlash (notEmpty : authority ≠ [])
    (chars : ∀ c ∈ authority, isSegmentChar c = true) (rest : List Char) :
    ('/' :: '/' :: (authority ++ rest)).dropWhile (isSlash kind) = authority ++ rest := by
  have one (s : List Char) : ('/' :: s).dropWhile (isSlash kind) = s.dropWhile (isSlash kind) :=
    List.dropWhile_cons_of_pos rfl
  rw [one, one]
  -- The authority is not empty and does not begin with a slash.
  refine dropWhile_of_head? fun c mem => ?_
  rw [List.head?_append_of_ne_nil _ notEmpty] at mem
  exact (isSegmentChar_spec (chars c (List.mem_of_mem_head? mem))).2.1 _

/-- What a network scheme says begins with its authority, however many slashes stand before it. -/
theorem parseNetwork_append {port : Nat} (notEmpty : authority ≠ [])
    (chars : ∀ c ∈ authority, isAuthorityChar c = true)
    (inside : ∀ s ∈ segments, ∀ c ∈ s, isSegmentChar c = true) :
    parseNetwork (.network port) ('/' :: '/' :: (authority ++ Path.text segments))
      = (parseHostPort (.network port) authority).map fun host =>
          (.at ⟨[], [], host.1, host.2⟩ (Path.ofSegments false (rooted segments)), []) := by
  have slashes : ('/' :: '/' :: (authority ++ Path.text segments)).dropWhile
      (isSlash (.network port)) = authority ++ Path.text segments :=
    dropWhile_isSlash notEmpty (fun c mem => (isSegmentChar_of_isAuthorityChar (chars c mem)).1) _
  have noMark : ∀ c ∈ Path.text segments, isMark c = false :=
    forall_mem_text (by decide) fun s mem c here => (isSegmentChar_spec (inside s mem c here)).2.2
  obtain ⟨before, after⟩ := beforeMark_text noMark
  rw [parseNetwork, slashes, parseAuthority_append chars]
  cases parseHostPort (.network port) authority with
  | error e => rfl
  | ok host =>
      change Except.ok (Place.at _ (parsePathAfter _ (beforeMark (Path.text segments))),
        fromMark (Path.text segments)) = _
      rw [before, after, parsePathAfter_text port inside]
      rfl

/-- The address of a path at a host, perhaps at a port. -/
def httpAt (host : Host × Option Nat) (path : List (List Char)) : Url :=
  { scheme := "http".toList, place := .at ⟨[], [], host.1, host.2⟩ path }

/-- Addresses are the same only if their hosts and their paths are. -/
theorem httpAt_inj {host host' : Host × Option Nat} {path path' : List (List Char)}
    (h : httpAt host path = httpAt host' path') : host = host' ∧ path = path' := by
  obtain ⟨authorities, paths⟩ := Place.at.inj (Url.mk.inj h).2.1
  obtain ⟨-, -, hosts, ports⟩ := Authority.mk.inj authorities
  exact ⟨Prod.ext hosts ports, paths⟩

/-- An address is read by reading its authority and adding its segments to a path. -/
theorem ofChars_http (notEmpty : authority ≠ [])
    (chars : ∀ c ∈ authority, isAuthorityChar c = true)
    (inside : ∀ s ∈ segments, ∀ c ∈ s, isSegmentChar c = true) :
    ofChars (httpText authority segments)
      = (parseHostPort (.network 80) authority).map
          (httpAt · (Path.ofSegments false (rooted segments))) := by
  have visible : ∀ c ∈ httpText authority segments, isBlank c = false := by
    have word : ∀ c ∈ "http".toList, isBlank c = false :=
      List.all_iff_forall_prop.1 (by decide)
    have mark : ∀ c ∈ [':', '/', '/'], isBlank c = false :=
      List.all_iff_forall_prop.1 (by decide)
    have path : ∀ c ∈ Path.text segments, isBlank c = false :=
      forall_mem_text (by decide) fun s mem c here => (isSegmentChar_spec (inside s mem c here)).1
    have host (c) (mem : c ∈ authority) : isBlank c = false :=
      (isSegmentChar_spec (isSegmentChar_of_isAuthorityChar (chars c mem)).1).1
    exact List.forall_mem_append.2 ⟨word, List.forall_mem_append.2
      ⟨mark, List.forall_mem_append.2 ⟨host, path⟩⟩⟩
  have kind : Kind.ofScheme "http".toList = .network 80 := rfl
  rw [ofChars, significant_of_visible visible, httpText, scheme?_http]
  change (parsePlace (Kind.ofScheme "http".toList) _ >>= _) = _
  rw [kind, parsePlace, parseNetwork_append notEmpty chars inside]
  cases parseHostPort (.network 80) authority <;> rfl

end WebDriverClient.Url
