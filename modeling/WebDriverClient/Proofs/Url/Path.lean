/-
**Segments that are kept.**

Segments that are added to a path stay in it as they are, unless one of them is a dot segment: then
the path has lost a segment, or has an empty one in the place of its last.  Of the forms of texts
only those of one dot and of two dots are dot segments, because a dot needs no encoding and no other
form can be read as one.

Main definitions:

* `Path.isDots` — the segments that are not kept;
* `Path.textsOf` — the texts that the segments of a path stand for.

Main results:

* `Path.append_of_plain` — segments other than dots are kept;
* `Path.isDots_encode` — the forms that are dot segments;
* `Path.textsOf_ofSegments_iff` — **a path stands for the texts it was made from exactly when none
  of them is one dot or two dots**.
-/

import WebDriverClient.Proofs.Text.Percent
import WebDriverClient.Url.Path

set_option autoImplicit false

namespace WebDriverClient.Url.Path

/-! ### Dot segments -/

/-- The segment is not kept. -/
def isDots (s : List Char) : Bool := isDot s || isDotDot s

theorem isDots_eq_false_iff {s : List Char} :
    isDots s = false ↔ isDot s = false ∧ isDotDot s = false :=
  Bool.or_eq_false_iff

theorem enter_eq (path : List (List Char)) (segment : List Char) :
    enter false path segment = path ++ [segment] := rfl

theorem length_shorten_le (path : List (List Char)) :
    (shorten false path).length ≤ path.length := by
  unfold shorten
  split
  next drive =>
    change ([] : List (List Char)).length ≤ 1
    exact Nat.zero_le 1
  next => exact List.length_dropLast ▸ Nat.sub_le _ _

theorem push_of_plain (path : List (List Char)) {segment : List Char}
    (h : isDots segment = false) : push false path segment = path ++ [segment] := by
  obtain ⟨dot, dotDot⟩ := isDots_eq_false_iff.1 h
  simp only [push, dot, dotDot, Bool.false_eq_true, if_false, enter_eq]

theorem pushLast_of_plain (path : List (List Char)) {segment : List Char}
    (h : isDots segment = false) : pushLast false path segment = path ++ [segment] := by
  obtain ⟨dot, dotDot⟩ := isDots_eq_false_iff.1 h
  simp only [pushLast, dot, dotDot, Bool.false_eq_true, if_false, enter_eq]

/-- A dot segment adds nothing. -/
theorem length_push_of_dots (path : List (List Char)) {segment : List Char}
    (h : isDots segment = true) : (push false path segment).length ≤ path.length := by
  unfold push
  split
  next => exact length_shorten_le path
  next notTwo =>
    have one : isDot segment = true := (Bool.or_eq_true_iff.1 h).resolve_right notTwo
    rw [if_pos one]

/-- A dot segment at the end leaves an empty segment. -/
theorem pushLast_of_dots (path : List (List Char)) {segment : List Char}
    (h : isDots segment = true) :
    ∃ before, before.length ≤ path.length ∧ pushLast false path segment = before ++ [[]] := by
  unfold pushLast
  split
  next => exact ⟨_, length_shorten_le path, rfl⟩
  next notTwo =>
    have one : isDot segment = true := (Bool.or_eq_true_iff.1 h).resolve_right notTwo
    exact ⟨path, Nat.le_refl _, by rw [if_pos one]⟩

theorem length_push_le (path : List (List Char)) (segment : List Char) :
    (push false path segment).length ≤ path.length + 1 := by
  cases h : isDots segment with
  | true => exact Nat.le_succ_of_le (length_push_of_dots path h)
  | false =>
      rw [push_of_plain path h, List.length_append]
      exact Nat.le_refl _

theorem length_pushLast_le (path : List (List Char)) (segment : List Char) :
    (pushLast false path segment).length ≤ path.length + 1 := by
  cases h : isDots segment with
  | true =>
      obtain ⟨before, shorter, eq⟩ := pushLast_of_dots path h
      rw [eq, List.length_append]
      exact Nat.succ_le_succ shorter
  | false =>
      rw [pushLast_of_plain path h, List.length_append]
      exact Nat.le_refl _

/-! ### Adding segments -/

theorem append_cons_cons (path : List (List Char)) (segment next : List Char)
    (rest : List (List Char)) :
    append false path (segment :: next :: rest)
      = append false (push false path segment) (next :: rest) := rfl

/-- No segment becomes two. -/
theorem length_append_le (path segments : List (List Char)) :
    (append false path segments).length ≤ path.length + segments.length := by
  induction segments generalizing path with
  | nil => exact Nat.le_refl _
  | cons segment rest ih =>
      cases rest with
      | nil => exact length_pushLast_le path segment
      | cons next rest =>
          have here := length_push_le path segment
          have later := ih (push false path segment)
          rw [append_cons_cons, List.length_cons]
          omega

/-- Segments other than dots are kept. -/
theorem append_of_plain (path : List (List Char)) {segments : List (List Char)}
    (h : ∀ s ∈ segments, isDots s = false) : append false path segments = path ++ segments := by
  induction segments generalizing path with
  | nil => exact (List.append_nil path).symm
  | cons segment rest ih =>
      have here := h segment List.mem_cons_self
      cases rest with
      | nil => exact pushLast_of_plain path here
      | cons next rest =>
          have later := ih (path ++ [segment]) fun s mem => h s (List.mem_cons_of_mem _ mem)
          rw [append_cons_cons, push_of_plain path here, later, List.append_assoc,
            List.singleton_append]

theorem mem_of_mem_shorten {path : List (List Char)} {s : List Char}
    (h : s ∈ shorten false path) : s ∈ path := by
  unfold shorten at h
  split at h
  next => exact (List.not_mem_nil h).elim
  next => exact List.dropLast_subset _ h

theorem of_mem_push {path : List (List Char)} {segment s : List Char}
    (h : s ∈ push false path segment) : s ∈ path ∨ (s = segment ∧ isDots s = false) := by
  cases dots : isDots segment with
  | true =>
      unfold push at h
      split at h
      next => exact .inl (mem_of_mem_shorten h)
      next notTwo =>
        rw [if_pos ((Bool.or_eq_true_iff.1 dots).resolve_right notTwo)] at h
        exact .inl h
  | false =>
      rw [push_of_plain path dots, List.mem_append, List.mem_singleton] at h
      exact h.imp_right fun last => ⟨last, last ▸ dots⟩

theorem of_mem_pushLast {path : List (List Char)} {segment s : List Char}
    (h : s ∈ pushLast false path segment) :
    s ∈ path ∨ s = [] ∨ (s = segment ∧ isDots s = false) := by
  cases dots : isDots segment with
  | true =>
      unfold pushLast at h
      split at h
      next =>
        rw [List.mem_append, List.mem_singleton] at h
        exact h.imp mem_of_mem_shorten .inl
      next notTwo =>
        rw [if_pos ((Bool.or_eq_true_iff.1 dots).resolve_right notTwo), List.mem_append,
          List.mem_singleton] at h
        exact h.imp_right .inl
  | false =>
      rw [pushLast_of_plain path dots, List.mem_append, List.mem_singleton] at h
      exact h.imp_right fun last => .inr ⟨last, last ▸ dots⟩

/-- No segments are added but those that are no dots, and empty ones. -/
theorem of_mem_append {path segments : List (List Char)} {s : List Char}
    (h : s ∈ append false path segments) :
    s ∈ path ∨ s = [] ∨ (s ∈ segments ∧ isDots s = false) := by
  induction segments generalizing path with
  | nil => exact .inl h
  | cons segment rest ih =>
      cases rest with
      | nil =>
          rcases of_mem_pushLast h with old | empty | ⟨rfl, plain⟩
          · exact .inl old
          · exact .inr (.inl empty)
          · exact .inr (.inr ⟨List.mem_cons_self, plain⟩)
      | cons next rest =>
          rw [append_cons_cons] at h
          rcases ih h with pushed | empty | ⟨later, plain⟩
          · rcases of_mem_push pushed with old | ⟨rfl, plain⟩
            · exact .inl old
            · exact .inr (.inr ⟨List.mem_cons_self, plain⟩)
          · exact .inr (.inl empty)
          · exact .inr (.inr ⟨List.mem_cons_of_mem _ later, plain⟩)

/-- A path that segments are added to is not empty. -/
theorem append_ne_nil (path : List (List Char)) {segments : List (List Char)}
    (h : segments ≠ []) : append false path segments ≠ [] := by
  induction segments generalizing path with
  | nil => exact absurd rfl h
  | cons segment rest ih =>
      cases rest with
      | nil =>
          change pushLast false path segment ≠ []
          unfold pushLast
          split
          next => exact List.append_ne_nil_of_right_ne_nil _ (List.cons_ne_nil _ _)
          next =>
            split
            next => exact List.append_ne_nil_of_right_ne_nil _ (List.cons_ne_nil _ _)
            next => exact List.append_ne_nil_of_right_ne_nil _ (List.cons_ne_nil _ _)
      | cons next rest => exact ih _ (List.cons_ne_nil _ _)

/-- Segments of which one is a dot segment are not kept, not even up to a reading `f` that tells
them from an empty segment. -/
theorem map_append_iff {β : Type} {f : List Char → β}
    (notEmpty : ∀ s, isDots s = true → f [] ≠ f s) (path segments : List (List Char)) :
    (append false path segments).map f = (path ++ segments).map f
      ↔ ∀ s ∈ segments, isDots s = false := by
  constructor
  · intro same
    induction segments generalizing path with
    | nil => exact fun s mem => (nomatch mem)
    | cons segment rest ih =>
        cases h : isDots segment with
        | true =>
            exfalso
            cases rest with
            | nil =>
                -- The last segment of the path is empty, and `f` does not take it for dots.
                obtain ⟨before, -, eq⟩ := pushLast_of_dots path h
                rw [append, eq, List.map_append, List.map_append] at same
                have last := (List.append_inj' same rfl).2
                exact notEmpty segment h (List.cons.inj last).1
            | cons next rest =>
                -- What is lost is not made up for by the segments that follow.
                have lengths := congrArg List.length same
                have here := length_push_of_dots path h
                have later := length_append_le (push false path segment) (next :: rest)
                rw [append_cons_cons, List.length_map, List.length_map, List.length_append,
                  List.length_cons] at lengths
                omega
        | false =>
            have kept : ∀ s ∈ rest, isDots s = false := by
              cases rest with
              | nil => exact fun s mem => (nomatch mem)
              | cons next rest =>
                  rw [append_cons_cons, push_of_plain path h] at same
                  refine ih (path ++ [segment]) ?_
                  rw [same, List.append_assoc, List.singleton_append]
            exact List.forall_mem_cons.2 ⟨h, kept⟩
  · intro h
    rw [append_of_plain path h]

/-! ### What segments stand for -/

/-- A dot that is taken off a segment stands for a dot, however it is written. -/
theorem decode_of_dropDot? {s rest : List Char} (h : dropDot? s = some rest) :
    Percent.decode (Utf8.encode (String.ofList s))
      = 0x2E :: Percent.decode (Utf8.encode (String.ofList rest)) := by
  unfold dropDot? at h
  split at h
  next rest' =>
    obtain rfl := Option.some.inj h
    rw [Utf8.encode_ofList_cons]
    exact Percent.decode_other (by decide) _
  next rest' =>
    obtain rfl := Option.some.inj h
    rw [Utf8.encode_ofList_cons, Utf8.encode_ofList_cons, Utf8.encode_ofList_cons]
    exact Percent.decode_percent (x := 2) (y := 14) rfl rfl _
  next rest' =>
    obtain rfl := Option.some.inj h
    rw [Utf8.encode_ofList_cons, Utf8.encode_ofList_cons, Utf8.encode_ofList_cons]
    exact Percent.decode_percent (x := 2) (y := 14) rfl rfl _
  next => nomatch h

theorem textOf?_of_isDot {s : List Char} (h : isDot s = true) :
    Percent.decode (Utf8.encode (String.ofList s)) = Utf8.encode "." := by
  rw [decode_of_dropDot? (of_decide_eq_true h)]
  rfl

/-- A dot segment stands for one dot or for two. -/
theorem textOf?_of_isDots {s : List Char} (h : isDots s = true) :
    Percent.textOf? s = some "." ∨ Percent.textOf? s = some ".." := by
  unfold Percent.textOf?
  rcases Bool.or_eq_true_iff.1 h with h | h
  · rw [textOf?_of_isDot h]
    exact Or.inl (Utf8.decode?_encode ".")
  · obtain ⟨rest, dropped, one⟩ : ∃ rest, dropDot? s = some rest ∧ isDot rest = true := by
      unfold isDotDot at h
      cases dropped : dropDot? s with
      | none =>
          rw [dropped] at h
          nomatch h
      | some rest => exact ⟨rest, rfl, by rwa [dropped] at h⟩
    rw [decode_of_dropDot? dropped, textOf?_of_isDot one]
    exact Or.inr (Utf8.decode?_encode "..")

/-- The forms of one dot and of two dots are dot segments, and no other form of a text is. -/
theorem isDots_encode {s : String} :
    isDots (Percent.encode Percent.isUnreserved s) = true ↔ s = "." ∨ s = ".." := by
  constructor
  · intro h
    rcases textOf?_of_isDots h with text | text
    all_goals rw [Percent.textOf?_encode Percent.readable_isUnreserved] at text
    · exact Or.inl (Option.some.inj text)
    · exact Or.inr (Option.some.inj text)
  · rintro (rfl | rfl)
    · decide
    · decide

/-- A form of a text is kept as it is written. -/
theorem encode_form (s : String) :
    encode (Percent.encode Percent.isUnreserved s) = Percent.encode Percent.isUnreserved s := by
  refine Percent.encode_of_kept fun c mem => ?_
  exact Percent.of_isCoded (p := fun c => c.toNat < 0x80 ∧ isPlain (UInt8.ofNat c.toNat) = true)
    (by decide) (Percent.isCoded_of_mem mem)

/-- The texts that the segments of a path stand for. -/
def textsOf (path : List (List Char)) : List (Option String) := path.map Percent.textOf?

/-- A path stands for the texts it was made from exactly when none of them is one dot or two
dots. -/
theorem textsOf_ofSegments_iff (texts : List String) :
    textsOf (ofSegments false (texts.map (Percent.encode Percent.isUnreserved))) = texts.map some
      ↔ ∀ t ∈ texts, t ≠ "." ∧ t ≠ ".." := by
  have forms : (texts.map (Percent.encode Percent.isUnreserved)).map encode
      = texts.map (Percent.encode Percent.isUnreserved) := by
    rw [List.map_map]
    refine List.map_congr_left fun t _ => ?_
    rw [Function.comp_apply, encode_form]
  have read : texts.map some
      = ([] ++ texts.map (Percent.encode Percent.isUnreserved)).map Percent.textOf? := by
    rw [List.nil_append, List.map_map]
    refine List.map_congr_left fun t _ => ?_
    rw [Function.comp_apply, Percent.textOf?_encode Percent.readable_isUnreserved]
  have notEmpty (s : List Char) (h : isDots s = true) :
      Percent.textOf? [] ≠ Percent.textOf? s := by
    have empty : Percent.textOf? [] = some "" := Utf8.decode?_encode ""
    rw [empty]
    rcases textOf?_of_isDots h with text | text
    all_goals
      rw [text]
      decide
  rw [textsOf, ofSegments, forms, read, map_append_iff notEmpty, List.forall_mem_map]
  refine forall_congr' fun t => forall_congr' fun _ => ?_
  rw [← not_or, ← isDots_encode, Bool.not_eq_true]

end WebDriverClient.Url.Path
