/-
**The ASCII form of a name is its own ASCII form.**

The labels of a name are mapped to themselves and stand where they may, and a label that came with
the mark needs it.  So each label is read back from its form, whether it is written in ASCII or
not, and a name that has been brought into its ASCII form stays as it is, as does every host that
has been read.

Main definitions:

* `Domain.IsMeant` — what is known of the labels of a name.

Main results:

* `Domain.label?_encode` — a label is read back from its form;
* `Domain.ofText?_ofText?` — **the ASCII form of a name is its own ASCII form**;
* `Host.parse_text`, `Host.spanHost_text` — **a host is read back from its form**, also in front of
  a port.
-/

import WebDriverClient.Proofs.Url.Mapping
import WebDriverClient.Proofs.Url.Punycode
import WebDriverClient.Proofs.Url.Written

set_option autoImplicit false

namespace WebDriverClient.Url

namespace Domain

/-! ### Labels -/

/-- What is known of the labels of a name. -/
structure IsMeant (label : List Char) : Prop where
  /-- The label is mapped to itself. -/
  mapped : mapped? label = some label
  /-- Its characters stand where they may. -/
  wellFormed : isWellFormed label = true
  /-- It is one label. -/
  noDot : '.' ∉ label
  /-- In ASCII it has no mark. -/
  unmarked : label.all isAscii = true → afterMark? label = none

theorem afterMark?_eq_some {s coded : List Char} (h : afterMark? s = some coded) :
    s = 'x' :: 'n' :: '-' :: '-' :: coded := by
  unfold afterMark? at h
  split at h
  next rest => rw [Option.some.inj h]
  next => cases h

/-- What a label means that has been mapped. -/
theorem isMeant_of_label? {s label : List Char} (mapped : mapped? s = some s) (noDot : '.' ∉ s)
    (h : label? s = some label) : IsMeant label := by
  have wellFormed := isWellFormed_of_label? h
  have checked {meant : List Char}
      (h : (if isWellFormed meant then some meant else none) = some label) : meant = label :=
    Option.some.inj (Option.ite_none_right_eq_some.1 h).2
  unfold label? at h
  dsimp only at h
  split at h
  next none =>
    obtain rfl := checked h
    exact ⟨mapped, wellFormed, noDot, fun _ => none⟩
  next coded marked =>
    obtain ⟨decoded, decodes, h⟩ := Option.bind_eq_some_iff.1 h
    split at h
    next => cases h
    next needed =>
      obtain rfl := checked h
      rw [Bool.or_eq_true, not_or, decide_eq_true_eq, not_not] at needed
      refine ⟨needed.2, wellFormed, fun dot => ?_, fun ascii => absurd ascii needed.1⟩
      rcases Punycode.mem_of_decode? decodes '.' dot with mem | far
      · refine noDot (afterMark?_eq_some marked ▸ ?_)
        exact List.mem_append_right ['x', 'n', '-', '-'] mem
      · exact absurd far (by decide)

/-- A label is read back from its form. -/
theorem IsMeant.label?_encode {label : List Char} (h : IsMeant label) :
    label? (encode label) = some label := by
  rw [encode]
  split
  next ascii =>
    rw [label?, h.unmarked ascii]
    exact if_pos h.wellFormed
  next other =>
    have marked : afterMark? ('x' :: 'n' :: '-' :: '-' :: Punycode.encode label)
        = some (Punycode.encode label) := rfl
    have needed : ¬ (label.all isAscii || decide (mapped? label ≠ some label)) = true := by
      rw [Bool.or_eq_true, decide_eq_true_eq, not_or, not_not]
      exact ⟨other, h.mapped⟩
    rw [label?, marked]
    dsimp only
    rw [Punycode.decode?_encode, Option.bind_eq_bind, Option.bind_some, if_neg needed]
    exact if_pos h.wellFormed

/-- Code characters are of ASCII, kept and no periods. -/
theorem of_isCodeChar {c : Char} (h : Punycode.isCodeChar c = true) :
    c.toNat < 0x80 ∧ IsKept c ∧ c ≠ '.' := by
  have lower : ¬ (0x41 ≤ c.toNat ∧ c.toNat ≤ 0x5A) ∧ c ≠ '.' :=
    Punycode.of_isCodeChar (p := fun c => ¬ (0x41 ≤ c.toNat ∧ c.toNat ≤ 0x5A) ∧ c ≠ '.')
      (by decide) h
  have ascii := Punycode.lt_of_isCodeChar h
  exact ⟨ascii, (isKept_of_isAscii ascii).2 lower.1, lower.2⟩

/-- The characters of the form of a label are of ASCII, kept and no periods. -/
theorem IsMeant.of_mem_encode {label : List Char} (h : IsMeant label) :
    ∀ c ∈ encode label, c.toNat < 0x80 ∧ IsKept c ∧ c ≠ '.' := by
  have own : ∀ c ∈ label, c.toNat < 0x80 → c.toNat < 0x80 ∧ IsKept c ∧ c ≠ '.' := fun c mem ascii =>
    ⟨ascii, isKept_of_mapped? h.mapped c mem, fun dot => h.noDot (dot ▸ mem)⟩
  rw [encode]
  split
  next ascii =>
    exact fun c mem => own c mem (of_decide_eq_true (List.all_eq_true.1 ascii c mem))
  next =>
    have hyphen : '-'.toNat < 0x80 ∧ IsKept '-' ∧ '-' ≠ '.' :=
      ⟨by decide, (isKept_of_isAscii (by decide)).2 (by decide), by decide⟩
    have mark : ∀ c ∈ ['x', 'n', '-', '-'], c.toNat < 0x80 ∧ IsKept c ∧ c ≠ '.' := by
      simp only [List.forall_mem_cons]
      exact ⟨of_isCodeChar (by decide), of_isCodeChar (by decide), hyphen, hyphen,
        fun _ mem => (List.not_mem_nil mem).elim⟩
    refine List.forall_mem_append.2 ⟨mark, fun c mem => ?_⟩
    rcases Punycode.mem_encode mem with ⟨mem, ascii⟩ | rfl | code
    · exact own c mem ascii
    · exact hyphen
    · exact of_isCodeChar code

/-! ### Names -/

/-- The labels of a name and what is checked of them together. -/
theorem exists_labels {s : String} {name : List Char} (h : ofText? s = some name) :
    ∃ labels, labels ≠ [] ∧ (∀ label ∈ labels, IsMeant label) ∧
      ¬ (labels.any isRightToLeft && !labels.all isReadable) = true ∧
      name = ['.'].intercalate (labels.map encode) := by
  obtain ⟨z, mapped, h⟩ := Option.bind_eq_some_iff.1 h
  obtain ⟨labels, meant, h⟩ := Option.bind_eq_some_iff.1 h
  obtain ⟨readable, same⟩ := Option.ite_none_left_eq_some.1 h
  refine ⟨labels, ?_, fun label mem => ?_, readable, (Option.some.inj same).symm⟩
  · rintro rfl
    cases pieces : z.splitOnP (· = '.') with
    | nil => exact List.splitOnP_ne_nil _ _ pieces
    | cons piece rest =>
        rw [pieces, List.mapM_cons] at meant
        obtain ⟨_, -, meant⟩ := Option.bind_eq_some_iff.1 meant
        obtain ⟨_, -, meant⟩ := Option.bind_eq_some_iff.1 meant
        cases meant
  · obtain ⟨piece, memPiece, means⟩ := List.exists_of_mem_mapM meant label mem
    have noDot : '.' ∉ piece := fun dot =>
      absurd (Text.eq_false_of_mem_splitOnP memPiece '.' dot) (by decide)
    exact isMeant_of_label? (mapped?_of_mem_splitOnP mapped memPiece) noDot means

/-- The characters of a name are of ASCII and kept. -/
theorem of_mem_form {labels : List (List Char)} (meant : ∀ label ∈ labels, IsMeant label) :
    ∀ c ∈ ['.'].intercalate (labels.map encode), c.toNat < 0x80 ∧ IsKept c := by
  intro c mem
  obtain ⟨part, memPart, mem⟩ := List.mem_flatten.1 mem
  rcases mem_of_mem_intersperse memPart with rfl | memPart
  · obtain rfl := List.mem_singleton.1 mem
    exact ⟨by decide, (isKept_of_isAscii (by decide)).2 (by decide)⟩
  · obtain ⟨label, memLabel, rfl⟩ := List.mem_map.1 memPart
    have known := (meant label memLabel).of_mem_encode c mem
    exact ⟨known.1, known.2.1⟩

theorem lt_of_mem_ofText? {s : String} {name : List Char} (h : ofText? s = some name) :
    ∀ c ∈ name, c.toNat < 0x80 := by
  obtain ⟨labels, -, meant, -, rfl⟩ := exists_labels h
  exact fun c mem => (of_mem_form meant c mem).1

/-- The ASCII form of a name is its own ASCII form. -/
theorem ofText?_ofText? {s : String} {name : List Char} (h : ofText? s = some name) :
    ofText? (String.ofList name) = some name := by
  obtain ⟨labels, notEmpty, meant, readable, rfl⟩ := exists_labels h
  have form := of_mem_form meant
  have mapped : mapped? (['.'].intercalate (labels.map encode))
      = some (['.'].intercalate (labels.map encode)) := by
    rw [mapped?_of_isKept fun c mem => (form c mem).2, Text.normalize, if_pos]
    refine List.all_eq_true.2 fun c mem => decide_eq_true ?_
    exact Nat.lt_trans (form c mem).1 (by decide)
  have pieces : (['.'].intercalate (labels.map encode)).splitOnP (· = '.') = labels.map encode := by
    refine List.splitOn_intercalate '.' (fun piece mem dot => ?_) (by simpa using notEmpty)
    obtain ⟨label, memLabel, rfl⟩ := List.mem_map.1 mem
    exact ((meant label memLabel).of_mem_encode '.' dot).2.2 rfl
  have readBack : (labels.map encode).mapM label? = some labels := by
    rw [List.mapM_map, List.mapM_eq_some_map (g := id), List.map_id]
    exact fun label mem => (meant label mem).label?_encode
  simp only [ofText?, String.toList_ofList, mapped, Option.bind_eq_bind, Option.bind_some, pieces,
    readBack, if_neg readable]

end Domain

/-! ### Hosts -/

namespace Host

/-- A name in its ASCII form is read where any host may stand. -/
theorem parse_of_ofText? {s : String} {name : List Char} (h : Domain.ofText? s = some name) :
    parse name = ofName name := by
  have ascii := Domain.lt_of_mem_ofText? h
  have allowed := Domain.isForbidden_of_mem_ofText? h
  have decoded : Percent.textOf? name = some (String.ofList name) := by
    refine Percent.textOf?_of_ascii fun c mem => ⟨ascii c mem, ?_⟩
    rintro rfl
    exact absurd (allowed '%' mem) (by decide)
  unfold parse
  split
  next rest => exact absurd (allowed '[' List.mem_cons_self) (by decide)
  next =>
    rw [Percent.textOf?] at decoded
    simp only [decoded, Domain.ofText?_ofText? h]

/-- The host of a name is shown as the name, unless it is an address. -/
theorem ofName_eq_ok {name : List Char} {host : Host} (h : ofName name = .ok host) :
    (∃ a, host = .ipv4 a) ∨ host.text = name := by
  unfold ofName at h
  split at h
  next => cases h
  next =>
    split at h
    next =>
      split at h
      next a _ => exact .inl ⟨a, (Except.ok.inj h).symm⟩
      next => cases h
    next =>
      obtain rfl := Except.ok.inj h
      exact .inr rfl

/-- A host is an address, or its form is the ASCII form of a name. -/
theorem enclosed_or_name {s : List Char} {host : Host} (h : parse s = .ok host) :
    host.IsEnclosed host.text ∨
      ∃ t, Domain.ofText? t = some host.text ∧ ofName host.text = .ok host := by
  unfold parse at h
  split at h
  next rest =>
    unfold parseBracketed at h
    split at h
    next =>
      split at h
      next a _ =>
        obtain rfl := Except.ok.inj h
        exact .inl (.ipv6 a.isWritten_text)
      next => cases h
    next => cases h
  next =>
    split at h
    next => cases h
    next decoded _ =>
      split at h
      next => cases h
      next name form =>
        rcases ofName_eq_ok h with ⟨a, rfl⟩ | rfl
        · exact .inl (.ipv4 a)
        · exact .inr ⟨decoded, form, h⟩

/-- A host is read back from its form. -/
theorem parse_text {s : List Char} {host : Host} (h : parse s = .ok host) :
    parse host.text = .ok host := by
  rcases enclosed_or_name h with enclosed | ⟨t, form, name⟩
  · exact enclosed.parse_text
  · rw [parse_of_ofText? form, name]

/-- The form of a host ends where the text after it has no host to begin with. -/
theorem spanHost_text {s : List Char} {host : Host} (h : parse s = .ok host) {rest : List Char}
    (ends : spanHost false rest = ([], rest)) :
    spanHost false (host.text ++ rest) = (host.text, rest) := by
  rcases enclosed_or_name h with enclosed | ⟨t, form, -⟩
  · exact enclosed.spanHost_eq ends
  · have allowed := Domain.isForbidden_of_mem_ofText? form
    have chars : ∀ c ∈ host.text, c ≠ '[' ∧ c ≠ ']' ∧ (c = ':' → false = true) := by
      refine fun c mem => ⟨?_, ?_, ?_⟩
      all_goals
        rintro rfl
        exact absurd (allowed _ mem) (by decide)
    rw [spanHost_append chars, ends, List.append_nil]

end Host

end WebDriverClient.Url
