/-
**Which announcement is heard.**

The lines of the two streams of a driver arrive in any order, those of one stream in theirs.  A
stream is listened to until it ends or brings a line that is not UTF-8; what it brings afterwards
is lost.  So the address that is heard is the first one announced on a stream that is still open,
and a driver whose announcement follows a line that is not UTF-8 on the same stream is taken for one
that has exited.  Where all lines are UTF-8 no announcement is missed.

Main definitions:

* `OutputStream.brings` — all that arrives from a stream with some content;
* `Interleaving` — an order in which two contents arrive;
* `OutputStream.IsOpen` — a stream is still listened to after some arrivals;
* `Announcement.IsHeard`, `Announcement.HeardFirst` — an address announced on an open stream, and
  the first of these;
* `Announcement.readable` — the lines of a content before the first that is not UTF-8.

Main results:

* `Announcement.ofArrivals_fits` — what comes of waiting, for all arrivals;
* `Announcement.ofArrivals_interleaving` — **what comes of waiting on two contents, in every order
  of their lines**;
* `Announcement.misses_after_broken_line` — an announcement that is missed.
-/

import WebDriverClient.Endpoint.Announcement
import WebDriverClient.Text.Lines
import Mathlib.Data.List.TakeWhile

set_option autoImplicit false

namespace WebDriverClient

/-! ### Arrivals from two streams -/

namespace Arrival

/-- The stream that it is read from. -/
def stream : Arrival → OutputStream
  | .line s _ => s
  | .ended s => s

/-- It is a line of UTF-8. -/
def isText : Arrival → Bool
  | .line _ bytes => (Utf8.decode? bytes).isSome
  | .ended _ => false

end Arrival

/-- The lines of some bytes, without their ends. -/
def byteLines (content : List UInt8) : List (List UInt8) := Lines.split 0x0A 0x0D content

/-- All that arrives from a stream with some content. -/
def OutputStream.brings (s : OutputStream) (content : List UInt8) : List Arrival :=
  (byteLines content).map (.line s) ++ [.ended s]

/-- An order in which two contents arrive: each stream brings its lines in their order and then
ends. -/
structure Interleaving (contents : OutputStream → List UInt8) (arrivals : List Arrival) : Prop where
  /-- What arrives from each stream. -/
  brought : ∀ s, arrivals.filter (·.stream = s) = s.brings (contents s)

/-- A stream is still open after some arrivals: it has brought only UTF-8 and has not ended. -/
def OutputStream.IsOpen (s : OutputStream) (seen : List Arrival) : Prop :=
  ∀ a ∈ seen, a.stream = s → a.isText

theorem OutputStream.isOpen_nil (s : OutputStream) : s.IsOpen [] := by
  intro a mem
  nomatch mem

theorem OutputStream.isOpen_append {s : OutputStream} {seen more : List Arrival} :
    s.IsOpen (seen ++ more) ↔ s.IsOpen seen ∧ s.IsOpen more :=
  List.forall_mem_append

theorem OutputStream.isOpen_concat {s : OutputStream} {seen : List Arrival} {a : Arrival} :
    s.IsOpen (seen ++ [a]) ↔ s.IsOpen seen ∧ (a.stream = s → a.isText) :=
  isOpen_append.trans (and_congr_right' List.forall_mem_singleton)

namespace Announcement

/-! ### Addresses that are heard -/

/-- The address that a line of bytes announces. -/
def ofBytes? (bytes : List UInt8) : Option Url := (Utf8.decode? bytes).bind (parse? ·.toList)

/-- The address that an arrival announces. -/
def ofArrival? : Arrival → Option Url
  | .line _ bytes => ofBytes? bytes
  | .ended _ => none

/-- Only a line of UTF-8 announces an address. -/
theorem isText_of_ofArrival? {a : Arrival} {url : Url} (h : ofArrival? a = some url) :
    a.isText := by
  cases a with
  | line s bytes =>
      obtain ⟨line, decoded, -⟩ := Option.bind_eq_some_iff.1 h
      exact Option.isSome_of_eq_some decoded
  | ended s => nomatch h

/-- The address is announced by an arrival whose stream is open by then. -/
def IsHeard (arrivals : List Arrival) (url : Url) : Prop :=
  ∃ before a after, arrivals = before ++ a :: after ∧ a.stream.IsOpen before
    ∧ ofArrival? a = some url

/-- The address is the first that is announced by an arrival whose stream is open by then. -/
def HeardFirst (arrivals : List Arrival) (url : Url) : Prop :=
  ∃ before a after, arrivals = before ++ a :: after ∧ a.stream.IsOpen before
    ∧ ofArrival? a = some url ∧ ∀ u, ¬ IsHeard before u

theorem HeardFirst.isHeard {arrivals : List Arrival} {url : Url} (h : HeardFirst arrivals url) :
    IsHeard arrivals url := by
  obtain ⟨before, a, after, eq, isOpen, announced, -⟩ := h
  exact ⟨before, a, after, eq, isOpen, announced⟩

/-- What is heard in two stretches of arrivals is heard in the first or at the arrival where
the second has gone on to. -/
theorem isHeard_append {seen more : List Arrival} {url : Url} :
    IsHeard (seen ++ more) url ↔ IsHeard seen url ∨
      ∃ before a after, more = before ++ a :: after ∧ a.stream.IsOpen (seen ++ before)
        ∧ ofArrival? a = some url := by
  constructor
  · rintro ⟨before, a, after, eq, isOpen, announced⟩
    obtain ⟨rest, rfl, rest_eq⟩ | ⟨rest, rfl, rest_eq⟩ := List.append_eq_append_iff.1 eq
    · exact .inr ⟨rest, a, after, rest_eq, isOpen, announced⟩
    · cases rest with
      | nil =>
          refine .inr ⟨[], a, after, rest_eq.symm, ?_, announced⟩
          simpa using isOpen
      | cons b rest =>
          obtain ⟨rfl, rfl⟩ := List.cons.inj rest_eq
          exact .inl ⟨before, a, rest, rfl, isOpen, announced⟩
  · rintro (⟨before, a, after, rfl, isOpen, announced⟩ | ⟨before, a, after, rfl, isOpen, announced⟩)
    · exact ⟨before, a, after ++ more, by simp, isOpen, announced⟩
    · exact ⟨seen ++ before, a, after, by simp, isOpen, announced⟩

/-- Once every stream is closed, all is heard that will be. -/
theorem isHeard_append_of_closed {seen rest : List Arrival} {url : Url}
    (closed : ∀ s : OutputStream, ¬ s.IsOpen seen) :
    IsHeard (seen ++ rest) url ↔ IsHeard seen url := by
  rw [isHeard_append, or_iff_left]
  rintro ⟨before, a, after, -, isOpen, -⟩
  exact closed _ (OutputStream.isOpen_append.1 isOpen).1

theorem isHeard_concat {seen : List Arrival} {a : Arrival} {url : Url} :
    IsHeard (seen ++ [a]) url
      ↔ IsHeard seen url ∨ a.stream.IsOpen seen ∧ ofArrival? a = some url := by
  rw [isHeard_append]
  refine or_congr_right ?_
  constructor
  · rintro ⟨before, b, after, eq, isOpen, announced⟩
    obtain ⟨rfl, eq⟩ | ⟨_, -, eq⟩ := List.singleton_eq_append_iff.1 eq
    · obtain ⟨rfl, -⟩ := List.cons.inj eq
      exact ⟨by simpa using isOpen, announced⟩
  · rintro ⟨isOpen, announced⟩
    exact ⟨[], a, [], rfl, by simpa using isOpen, announced⟩

/-- There is one first address. -/
theorem HeardFirst.unique {arrivals : List Arrival} {url url' : Url} (h : HeardFirst arrivals url)
    (h' : HeardFirst arrivals url') : url = url' := by
  obtain ⟨before, a, after, rfl, isOpen, announced, none⟩ := h
  obtain ⟨before', a', after', eq, isOpen', announced', none'⟩ := h'
  obtain ⟨rest, rfl, rest_eq⟩ | ⟨rest, rfl, rest_eq⟩ := List.append_eq_append_iff.1 eq
  · cases rest with
    | nil =>
        obtain ⟨rfl, -⟩ := List.cons.inj rest_eq
        exact Option.some.inj (announced.symm.trans announced')
    | cons b rest =>
        obtain ⟨rfl, -⟩ := List.cons.inj rest_eq
        exact absurd ⟨before, a, rest, rfl, isOpen, announced⟩ (none' url)
  · cases rest with
    | nil =>
        obtain ⟨rfl, -⟩ := List.cons.inj rest_eq
        exact Option.some.inj (announced.symm.trans announced')
    | cons b rest =>
        obtain ⟨rfl, -⟩ := List.cons.inj rest_eq
        exact absurd ⟨before', a', rest, rfl, isOpen', announced'⟩ (none url')

/-! ### What comes of waiting -/

/-- What came of waiting says what has arrived. -/
def Fits (arrivals : List Arrival) : Announcement → Prop
  | .heard url => HeardFirst arrivals url
  | .exited => (∀ s : OutputStream, ¬ s.IsOpen arrivals) ∧ ∀ url, ¬ IsHeard arrivals url
  | .silent => (∃ s : OutputStream, s.IsOpen arrivals) ∧ ∀ url, ¬ IsHeard arrivals url

theorem mem_without {s t : OutputStream} {streams : List OutputStream} :
    s ∈ without t streams ↔ s ∈ streams ∧ s ≠ t := by
  simp [without]

/-- What one arrival does as long as some stream is listened to. -/
theorem await_cons {streams : List OutputStream} (some : streams ≠ []) (a : Arrival)
    (rest : List Arrival) :
    (a.stream ∉ streams ∧ await streams (a :: rest) = await streams rest)
      ∨ (a.isText = false ∧ await streams (a :: rest) = await (without a.stream streams) rest)
      ∨ (a.isText ∧ ofArrival? a = none ∧ await streams (a :: rest) = await streams rest)
      ∨ a.stream ∈ streams ∧ ∃ url, ofArrival? a = .some url
          ∧ await streams (a :: rest) = .heard url := by
  obtain ⟨t, streams, rfl⟩ := List.exists_cons_of_ne_nil some
  cases a with
  | ended s => exact .inr (.inl ⟨rfl, rfl⟩)
  | line s bytes =>
      by_cases mem : s ∈ t :: streams
      · cases decoded : Utf8.decode? bytes with
        | none =>
            have broken : (Arrival.line s bytes).isText = false := by
              simp [Arrival.isText, decoded]
            refine .inr (.inl ⟨broken, ?_⟩)
            simp only [await, mem, ↓reduceIte, decoded]
            rfl
        | some line =>
            have text : (Arrival.line s bytes).isText := by simp [Arrival.isText, decoded]
            cases parsed : parse? line.toList with
            | none =>
                exact .inr (.inr (.inl ⟨text, by simp [ofArrival?, ofBytes?, decoded, parsed],
                  by simp [await, mem, decoded, parsed]⟩))
            | some url =>
                exact .inr (.inr (.inr ⟨mem, url, by simp [ofArrival?, ofBytes?, decoded, parsed],
                  by simp [await, mem, decoded, parsed]⟩))
      · exact .inl ⟨mem, by simp [await, mem]⟩

/-- What is listened to from some arrivals on says what has arrived in the end. -/
theorem await_fits {streams : List OutputStream} {seen : List Arrival} (rest : List Arrival)
    (listening : ∀ s : OutputStream, s ∈ streams ↔ s.IsOpen seen)
    (unheard : ∀ url, ¬ IsHeard seen url) : Fits (seen ++ rest) (await streams rest) := by
  induction rest generalizing streams seen with
  | nil =>
      rw [List.append_nil]
      cases streams with
      | nil => exact ⟨fun s isOpen => (nomatch (listening s).2 isOpen), unheard⟩
      | cons s streams => exact ⟨⟨s, (listening s).1 List.mem_cons_self⟩, unheard⟩
  | cons a rest ih =>
      by_cases empty : streams = []
      · subst empty
        have closed (s : OutputStream) : ¬ s.IsOpen seen := fun isOpen =>
          nomatch (listening s).2 isOpen
        refine ⟨fun s isOpen => closed s (OutputStream.isOpen_append.1 isOpen).1, ?_⟩
        intro url
        rw [isHeard_append_of_closed closed]
        exact unheard url
      · -- The arrival is counted among those that have been seen.
        have split : seen ++ a :: rest = (seen ++ [a]) ++ rest := by simp
        have goOn {left : List OutputStream} (eq : await streams (a :: rest) = await left rest)
            (left_iff : ∀ s, s ∈ left ↔ s ∈ streams ∧ (a.stream = s → a.isText))
            (nothing : ∀ url, a.stream ∈ streams → ofArrival? a ≠ some url) :
            Fits (seen ++ a :: rest) (await streams (a :: rest)) := by
          rw [eq, split]
          refine ih ?_ ?_
          · intro s
            rw [left_iff, listening, OutputStream.isOpen_concat]
          · intro url heard
            obtain heard | ⟨isOpen, announced⟩ := isHeard_concat.1 heard
            · exact unheard url heard
            · exact nothing url ((listening _).2 isOpen) announced
        obtain ⟨closed, eq⟩ | ⟨broken, eq⟩ | ⟨text, nothing, eq⟩ | ⟨mem, url, announced, eq⟩ :=
          await_cons empty a rest
        · refine goOn eq (fun s => ?_) fun url mem => absurd mem closed
          exact ⟨fun mem => ⟨mem, fun same => absurd (same ▸ mem) closed⟩, And.left⟩
        · refine goOn eq (fun s => ?_) fun url _ announced => ?_
          · rw [mem_without]
            simp [broken, eq_comm]
          · simp [isText_of_ofArrival? announced] at broken
        · refine goOn eq (fun s => ?_) fun url _ announced => ?_
          · simp [text]
          · nomatch nothing.symm.trans announced
        · rw [eq]
          exact ⟨seen, a, rest, rfl, (listening _).1 mem, announced, unheard⟩

/-- What comes of waiting says what has arrived. -/
theorem ofArrivals_fits (arrivals : List Arrival) : Fits arrivals (ofArrivals arrivals) := by
  refine @await_fits _ [] arrivals (fun s => ?_) ?_
  · refine iff_of_true ?_ s.isOpen_nil
    cases s <;> simp
  · rintro url ⟨before, a, after, eq, -⟩
    simp at eq

/-! ### Waiting on two contents -/

/-- The lines of a content before the first that is not UTF-8. -/
def readable (content : List UInt8) : List (List UInt8) :=
  (byteLines content).takeWhile fun line => (Utf8.decode? line).isSome

/-- An address is heard if it is announced on some stream before that stream ends or breaks. -/
theorem isHeard_iff {arrivals : List Arrival} {url : Url} :
    IsHeard arrivals url ↔
      ∃ s, ∃ a ∈ (arrivals.filter (·.stream = s)).takeWhile Arrival.isText,
        ofArrival? a = some url := by
  constructor
  · rintro ⟨before, a, after, rfl, isOpen, announced⟩
    have text : ∀ b ∈ before.filter (·.stream = a.stream), b.isText := by
      intro b mem
      obtain ⟨mem, same⟩ := List.mem_filter.1 mem
      exact isOpen b mem (of_decide_eq_true same)
    refine ⟨a.stream, a, ?_, announced⟩
    rw [List.filter_append, List.takeWhile_append_of_pos text,
      List.filter_cons, if_pos (decide_eq_true rfl),
      List.takeWhile_cons_of_pos (isText_of_ofArrival? announced)]
    exact List.mem_append_right _ List.mem_cons_self
  · rintro ⟨s, a, mem, announced⟩
    obtain ⟨front, back, eq⟩ := List.append_of_mem mem
    have text : ∀ b ∈ front, b.isText := by
      intro b mem
      exact List.mem_takeWhile_imp (eq ▸ List.mem_append_left _ mem)
    have whole := (List.takeWhile_append_dropWhile
      (p := Arrival.isText) (l := arrivals.filter (·.stream = s))).symm
    rw [eq, List.append_assoc, List.filter_eq_append_iff] at whole
    obtain ⟨first, second, rfl, rfl, whole⟩ := whole
    obtain ⟨skipped, after, rfl, others, same, -⟩ := List.filter_eq_cons_iff.1 whole
    refine ⟨first ++ skipped, a, after, (List.append_assoc ..).symm, ?_, announced⟩
    obtain rfl := of_decide_eq_true same
    refine OutputStream.isOpen_append.2 ⟨?_, ?_⟩
    · intro b mem same
      exact text b (List.mem_filter.2 ⟨mem, decide_eq_true same⟩)
    · intro b mem same
      exact absurd (decide_eq_true same) (others b mem)

end Announcement

/-! ### Streams that end -/

open Announcement

/-- All lines of a content are UTF-8. -/
def Announcement.IsText (content : List UInt8) : Prop :=
  ∀ line ∈ byteLines content, (Utf8.decode? line).isSome

/-- Up to its end or its first line that is not UTF-8 a stream brings its readable lines. -/
theorem OutputStream.takeWhile_brings (s : OutputStream) (content : List UInt8) :
    (s.brings content).takeWhile Arrival.isText = (readable content).map (.line s) := by
  have ends (lines : List (List UInt8)) :
      (lines.map (Arrival.line s) ++ [Arrival.ended s]).takeWhile Arrival.isText
        = (lines.takeWhile fun line => (Utf8.decode? line).isSome).map (.line s) := by
    induction lines with
    | nil => rfl
    | cons line lines ih =>
        by_cases text : (Utf8.decode? line).isSome
        · simpa [List.takeWhile_cons, Arrival.isText, text] using ih
        · simp [Arrival.isText, text]
  exact ends (byteLines content)

namespace Interleaving

variable {contents : OutputStream → List UInt8} {arrivals : List Arrival}

/-- All that arrives is lines of the contents and the ends of their streams. -/
theorem eq_of_mem {seen rest : List Arrival} (h : Interleaving contents (seen ++ rest))
    {a : Arrival} (mem : a ∈ seen) :
    a = Arrival.ended a.stream
      ∨ ∃ line ∈ byteLines (contents a.stream), a = .line a.stream line := by
  have brought : a ∈ a.stream.brings (contents a.stream) := by
    rw [← h.brought]
    exact List.mem_filter.2 ⟨List.mem_append_left _ mem, decide_eq_true rfl⟩
  obtain mem | eq := List.mem_append.1 brought
  · obtain ⟨line, mem, eq⟩ := List.mem_map.1 mem
    exact .inr ⟨line, mem, eq.symm⟩
  · exact .inl (List.mem_singleton.1 eq)

/-- Every stream has ended when all has arrived. -/
theorem ended_mem (h : Interleaving contents arrivals) (s : OutputStream) :
    Arrival.ended s ∈ arrivals := by
  have brought : Arrival.ended s ∈ arrivals.filter (·.stream = s) := by
    rw [h.brought]
    exact List.mem_append_right _ List.mem_cons_self
  exact (List.mem_filter.1 brought).1

/-- A stream brings nothing after its end. -/
theorem ended_notMem {before after : List Arrival} {s : OutputStream} {bytes : List UInt8}
    (h : Interleaving contents (before ++ .line s bytes :: after)) : Arrival.ended s ∉ before := by
  intro mem
  have brought := h.brought s
  have same : decide ((Arrival.line s bytes).stream = s) = true := decide_eq_true rfl
  rw [List.filter_append, List.filter_cons, if_pos same] at brought
  -- All but the last of what the stream brings are lines.
  have lines := congrArg List.dropLast brought
  rw [List.dropLast_append_of_ne_nil (List.cons_ne_nil _ _), OutputStream.brings,
    List.dropLast_concat] at lines
  have among : Arrival.ended s ∈ (byteLines (contents s)).map (.line s) := by
    rw [← lines]
    exact List.mem_append_left _ (List.mem_filter.2 ⟨mem, decide_eq_true rfl⟩)
  simp at among

/-- What is heard of all that arrives is what the readable lines announce. -/
theorem isHeard_iff (h : Interleaving contents arrivals) {url : Url} :
    IsHeard arrivals url ↔ ∃ s, ∃ line ∈ readable (contents s), ofBytes? line = some url := by
  rw [Announcement.isHeard_iff]
  simp [h.brought, OutputStream.takeWhile_brings, ofArrival?]

variable {seen rest : List Arrival}

/-- Where all lines are UTF-8, a stream is open until it ends. -/
theorem isOpen_iff (h : Interleaving contents (seen ++ rest))
    (text : ∀ s, IsText (contents s)) (s : OutputStream) :
    s.IsOpen seen ↔ Arrival.ended s ∉ seen := by
  constructor
  · intro isOpen mem
    exact absurd (isOpen _ mem rfl) (by simp [Arrival.isText])
  · rintro notEnded a mem rfl
    obtain eq | ⟨line, among, eq⟩ := h.eq_of_mem mem
    · exact absurd (eq ▸ mem) notEnded
    · rw [eq]
      exact text _ line among

/-- Where all lines are UTF-8, the first address that is heard is the first that is announced. -/
theorem heardFirst_iff (h : Interleaving contents (seen ++ rest))
    (text : ∀ s, IsText (contents s)) (url : Url) :
    HeardFirst seen url ↔ seen.findSome? ofArrival? = some url := by
  have isOpen {before after : List Arrival} {a : Arrival} {u : Url}
      (eq : seen = before ++ a :: after) (announced : ofArrival? a = some u) :
      a.stream.IsOpen before := by
    subst eq
    rw [List.append_assoc] at h
    refine (h.isOpen_iff text _).2 ?_
    cases a with
    | line s bytes => exact h.ended_notMem
    | ended s => nomatch announced
  rw [List.findSome?_eq_some_iff]
  constructor
  · rintro ⟨before, a, after, rfl, -, announced, unheard⟩
    refine ⟨before, a, after, rfl, announced, fun b mem => ?_⟩
    obtain ⟨front, back, rfl⟩ := List.append_of_mem mem
    refine Option.eq_none_iff_forall_ne_some.2 fun u earlier => ?_
    have eq : (front ++ b :: back) ++ a :: after = front ++ b :: (back ++ a :: after) := by simp
    exact unheard u ⟨front, b, back, rfl, isOpen eq earlier, earlier⟩
  · rintro ⟨before, a, after, rfl, announced, first⟩
    refine ⟨before, a, after, rfl, isOpen rfl announced, announced, ?_⟩
    rintro u ⟨front, b, back, rfl, -, earlier⟩
    exact nomatch (first b (by simp)).symm.trans earlier

end Interleaving

/-! ### What is heard of two contents -/

namespace Announcement

variable {arrivals : List Arrival}

theorem ofArrivals_eq_heard {url : Url} :
    ofArrivals arrivals = .heard url ↔ HeardFirst arrivals url := by
  have fits := ofArrivals_fits arrivals
  constructor
  · intro eq
    rwa [eq] at fits
  · intro first
    cases result : ofArrivals arrivals with
    | heard url' =>
        rw [result] at fits
        rw [first.unique fits]
    | exited =>
        rw [result] at fits
        exact absurd first.isHeard (fits.2 url)
    | silent =>
        rw [result] at fits
        exact absurd first.isHeard (fits.2 url)

theorem ofArrivals_eq_exited :
    ofArrivals arrivals = .exited ↔
      (∀ s : OutputStream, ¬ s.IsOpen arrivals) ∧ ∀ url, ¬ IsHeard arrivals url := by
  have fits := ofArrivals_fits arrivals
  constructor
  · intro eq
    rwa [eq] at fits
  · rintro ⟨closed, unheard⟩
    cases result : ofArrivals arrivals with
    | heard url =>
        rw [result] at fits
        exact absurd fits.isHeard (unheard url)
    | exited => rfl
    | silent =>
        rw [result] at fits
        obtain ⟨⟨s, isOpen⟩, -⟩ := fits
        exact absurd isOpen (closed s)

/-- What comes of waiting on two contents, in every order in which their lines arrive and however
much of them has arrived.  The address that is heard is the first that is announced on a stream that
is open by then; the driver is taken for one that has exited when both streams are closed and no
line before the end or the first broken line of either announces an address.  Where all lines are
UTF-8 the address is the first that is announced, and the driver is taken for one that has exited
when both streams have ended and no line of either announces an address. -/
theorem ofArrivals_interleaving {contents : OutputStream → List UInt8} {seen rest : List Arrival}
    (h : Interleaving contents (seen ++ rest)) :
    (∀ url, ofArrivals seen = .heard url ↔ HeardFirst seen url)
      ∧ (ofArrivals seen = .exited ↔ (∀ s : OutputStream, ¬ s.IsOpen seen)
          ∧ ∀ s, ∀ line ∈ readable (contents s), ofBytes? line = none)
      ∧ (rest = [] → ofArrivals seen ≠ .silent)
      ∧ ((∀ s, IsText (contents s)) →
          (∀ url, ofArrivals seen = .heard url ↔ seen.findSome? ofArrival? = some url)
          ∧ (ofArrivals seen = .exited ↔ (∀ s, Arrival.ended s ∈ seen)
              ∧ ∀ s, ∀ line ∈ byteLines (contents s), ofBytes? line = none)) := by
  have exited : ofArrivals seen = .exited ↔ (∀ s : OutputStream, ¬ s.IsOpen seen)
      ∧ ∀ s, ∀ line ∈ readable (contents s), ofBytes? line = none := by
    rw [ofArrivals_eq_exited]
    refine and_congr_right fun closed => ?_
    -- All has been heard, so what is heard by now is what is heard of all that arrives.
    have heard (url : Url) : IsHeard seen url ↔
        ∃ s, ∃ line ∈ readable (contents s), ofBytes? line = some url :=
      (isHeard_append_of_closed closed).symm.trans h.isHeard_iff
    simp only [heard, not_exists, not_and, Option.eq_none_iff_forall_ne_some]
    constructor
    · intro unheard s line mem url
      exact unheard url s line mem
    · intro unheard url s line mem
      exact unheard s line mem url
  refine ⟨fun _ => ofArrivals_eq_heard, exited, ?_, fun text => ⟨fun url => ?_, ?_⟩⟩
  · rintro rfl silent
    have fits := ofArrivals_fits seen
    rw [silent] at fits
    obtain ⟨⟨s, isOpen⟩, -⟩ := fits
    rw [List.append_nil] at h
    exact absurd (isOpen _ (h.ended_mem s) rfl) (by simp [Arrival.isText])
  · exact ofArrivals_eq_heard.trans (h.heardFirst_iff text url)
  · rw [exited]
    refine and_congr (forall_congr' fun s => ?_) (forall_congr' fun s => ?_)
    · rw [h.isOpen_iff text, not_not]
    · rw [readable, List.takeWhile_eq_self_iff.2 (text s)]

/-- A driver whose output begins with a byte that is no UTF-8 on a line of its own, after which it
says `Listening on ::1:1`, and that has no errors. -/
def brokenOutput : OutputStream → List UInt8
  | .output =>
      [0xFF, 0x0A, 0x4C, 0x69, 0x73, 0x74, 0x65, 0x6E, 0x69, 0x6E, 0x67, 0x20, 0x6F, 0x6E, 0x20,
        0x3A, 0x3A, 0x31, 0x3A, 0x31, 0x0A]
  | .errors => []

/-- All that arrives from it, the output first. -/
def brokenArrivals : List Arrival :=
  OutputStream.output.brings (brokenOutput .output) ++ OutputStream.errors.brings []

theorem interleaving_brokenArrivals : Interleaving brokenOutput brokenArrivals := by
  refine ⟨fun s => ?_⟩
  cases s <;> rfl

theorem ofArrivals_interleaving_brokenOutput :
    Interleaving brokenOutput (brokenArrivals ++ []) ∧ ofArrivals brokenArrivals = .exited := by
  have whole : Interleaving brokenOutput (brokenArrivals ++ []) := interleaving_brokenArrivals
  refine ⟨whole, (ofArrivals_interleaving whole).2.1.2 ⟨fun s isOpen => ?_, fun s => ?_⟩⟩
  · exact absurd (isOpen _ (interleaving_brokenArrivals.ended_mem s) rfl) (by simp [Arrival.isText])
  · have nothing : readable (brokenOutput s) = [] := by cases s <;> rfl
    rw [nothing]
    intro line mem
    nomatch mem

/-- The announcement of that driver is missed, although it is the first that is delivered. -/
theorem misses_after_broken_line :
    ¬ ∀ (contents : OutputStream → List UInt8) (arrivals : List Arrival),
        Interleaving contents arrivals →
        (∀ url, arrivals.findSome? ofArrival? = some url → ofArrivals arrivals = .heard url)
        ∧ (ofArrivals arrivals = .exited →
            ∀ s, ∀ line ∈ byteLines (contents s), ofBytes? line = none) := by
  intro all
  have announced : (brokenArrivals.findSome? ofArrival?).isSome := by decide +kernel
  obtain ⟨url, announced⟩ := Option.isSome_iff_exists.1 announced
  have heard := (all brokenOutput brokenArrivals interleaving_brokenArrivals).1 url announced
  have exited : ofArrivals brokenArrivals = .exited := by decide +kernel
  nomatch exited.symm.trans heard

end Announcement

end WebDriverClient
