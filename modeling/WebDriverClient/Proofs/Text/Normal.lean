/-
**The normal form of a normal form.**

Marks that wait between a character and one it is composed with have other classes, so that each
can be put in order before the other.  Hence a text that has been composed is decomposed into the
text it came from, up to the order of the marks, and its normal form is itself.  A period takes
part in nothing of this: the normal form of a text is made of those of the texts between periods.

Main definitions:

* `Text.place` — puts a character after a text, in reverse, in the order of the marks;
* `Text.IsOrdered` — the marks of a text are in their order.

Main results:

* `Text.place_comm` — marks of different classes are put in order one way;
* `Text.reorder_decompose_compose` — **what is composed is decomposed into what it came from**, up to
  the order of the marks;
* `Text.normalize_normalize` — **a normal form is its own normal form**;
* `Text.normalize_of_mem_splitOnP` — so is what stands between its periods.
-/

import WebDriverClient.Proofs.Text.Composition

set_option autoImplicit false

namespace WebDriverClient.Text

-- What follows is true of any classes; evaluating the table of classes would not help.
attribute [local irreducible] combiningClass

/-! ### Marks in order -/

/-- Puts a character after a text, given in reverse. -/
def place (before : List Char) (c : Char) : List Char :=
  if combiningClass c = 0 then c :: before else insertMark c before

theorem reorder_eq (s : List Char) : reorder s = (s.foldl place []).reverse := rfl

/-- The second character may come after the first. -/
def MayFollow (d c : Char) : Prop := combiningClass c = 0 ∨ combiningClass d ≤ combiningClass c

/-- The marks of a text are in their order. -/
def IsOrdered (s : List Char) : Prop := s.IsChain MayFollow

/-- Marks of different classes are put in order one way. -/
theorem insertMark_comm {c d : Char} (other : combiningClass c ≠ combiningClass d)
    (before : List Char) :
    insertMark c (insertMark d before) = insertMark d (insertMark c before) := by
  induction before with
  | nil =>
      simp only [insertMark]
      split <;> split <;> first | rfl | omega
  | cons e before ih =>
      simp only [insertMark]
      split <;> split
      next hd hc => rw [insertMark, insertMark, if_pos hc, if_pos hd, ih]
      all_goals simp only [insertMark]
      all_goals split <;> (try split) <;> first | rfl | omega

theorem place_comm {c d : Char} (hc : combiningClass c ≠ 0) (hd : combiningClass d ≠ 0)
    (other : combiningClass c ≠ combiningClass d) (before : List Char) :
    place (place before c) d = place (place before d) c := by
  rw [place, place, place, place, if_neg hc, if_neg hd, if_neg hd, if_neg hc,
    insertMark_comm other.symm]

/-- A mark is put in order as well before marks of lower classes. -/
theorem foldl_place_comm {c : Char} {ds : List Char}
    (less : ∀ d ∈ ds, combiningClass d ≠ 0 ∧ combiningClass d < combiningClass c)
    (before : List Char) : place (ds.foldl place before) c = ds.foldl place (place before c) := by
  induction ds generalizing before with
  | nil => rw [List.foldl_nil, List.foldl_nil]
  | cons d ds ih =>
      obtain ⟨⟨hd, here⟩, less⟩ := List.forall_mem_cons.1 less
      rw [List.foldl_cons, List.foldl_cons, ih less,
        place_comm hd (Nat.ne_zero_of_lt here) (Nat.ne_of_lt here)]

theorem perm_insertMark (c : Char) (before : List Char) :
    (insertMark c before).Perm (c :: before) := by
  induction before with
  | nil => exact .refl _
  | cons d before ih =>
      rw [insertMark]
      split
      next => exact (ih.cons d).trans (.swap c d before)
      next => exact .refl _

theorem perm_foldl_place (s before : List Char) : (s.foldl place before).Perm (s ++ before) := by
  induction s generalizing before with
  | nil => exact .refl _
  | cons c s ih =>
      have here : (place before c).Perm (c :: before) := by
        rw [place]
        split
        next => exact .refl _
        next => exact perm_insertMark c before
      exact (ih _).trans ((here.append_left s).trans List.perm_middle)

/-- A text has the same characters when its marks are in order. -/
theorem perm_reorder (s : List Char) : (reorder s).Perm s := by
  have perm := perm_foldl_place s []
  rw [List.append_nil] at perm
  exact (List.reverse_perm _).trans perm

/-- A mark comes after one of a text in order, or after the next of the text. -/
theorem isChain_insertMark {c : Char} {before : List Char}
    (h : before.IsChain fun c d => MayFollow d c) :
    (insertMark c before).IsChain fun c d => MayFollow d c := by
  induction before with
  | nil => exact .singleton c
  | cons d before ih =>
      rw [insertMark]
      split
      next less =>
        cases before with
        | nil => exact .cons_cons (.inr (Nat.le_of_lt less)) (.singleton c)
        | cons e before =>
            obtain ⟨first, rest⟩ := List.isChain_cons_cons.1 h
            have later := ih rest
            rw [insertMark] at later ⊢
            split at later
            next further =>
              rw [if_pos further]
              exact .cons_cons first later
            next further =>
              rw [if_neg further]
              exact .cons_cons (.inr (Nat.le_of_lt less)) later
      next less => exact .cons_cons (.inr (Nat.le_of_not_lt less)) h

theorem isOrdered_reorder (s : List Char) : IsOrdered (reorder s) := by
  rw [reorder_eq, IsOrdered, List.isChain_reverse]
  refine List.foldlRecOn s place .nil fun before h c _ => ?_
  rw [place]
  split
  next start =>
    cases before with
    | nil => exact .singleton c
    | cons d before => exact .cons_cons (.inl start) h
  next => exact isChain_insertMark h

theorem foldl_place_of_isOrdered {s before : List Char} (h : IsOrdered s)
    (start : ∀ d ∈ before.head?, ∀ c ∈ s.head?, MayFollow d c) :
    s.foldl place before = s.reverse ++ before := by
  induction s generalizing before with
  | nil => rfl
  | cons c s ih =>
      have here : place before c = c :: before := by
        rw [place]
        split
        next => rfl
        next mark =>
          cases before with
          | nil => rfl
          | cons d before =>
              have after := (start d rfl c rfl).resolve_left mark
              rw [insertMark, if_neg (Nat.not_lt_of_le after)]
      rw [List.foldl_cons, here, ih h.tail, List.reverse_cons, List.append_assoc]
      · rfl
      · rintro d ⟨⟩ e next
        cases s with
        | nil => cases next
        | cons e' s =>
            obtain rfl := Option.some.inj next
            exact (List.isChain_cons_cons.1 h).1

/-- A text in order stays as it is. -/
theorem reorder_of_isOrdered {s : List Char} (h : IsOrdered s) : reorder s = s := by
  rw [reorder_eq, foldl_place_of_isOrdered h (by simp), List.append_nil,
    List.reverse_reverse]

/-! ### What has been composed -/

/-- The class of a character that may be composed with one before is none of those in between. -/
structure Awaits (between rest : List Char) : Prop where
  /-- Only marks stand in between. -/
  marks : ∀ d ∈ between, combiningClass d ≠ 0
  /-- The last of them has the highest class. -/
  last : ∀ d ∈ between.head?, ∀ e ∈ between, combiningClass e ≤ combiningClass d
  /-- All of them may stand before the next. -/
  next : ∀ c ∈ rest.head?, ∀ d ∈ between, MayFollow d c
  /-- What follows is in order. -/
  ordered : IsOrdered rest

namespace Awaits

variable {c : Char} {between rest : List Char}

/-- A text follows the character that it is composed with. -/
theorem nil (h : IsOrdered rest) : Awaits [] rest :=
  ⟨fun _ mem => (List.not_mem_nil mem).elim, fun _ none => (Option.not_mem_none _ none).elim,
    fun _ _ _ mem => (List.not_mem_nil mem).elim, h⟩

/-- The next character stands in between as well. -/
theorem cons (h : Awaits between (c :: rest)) (mark : combiningClass c ≠ 0) :
    Awaits (c :: between) rest := by
  have below : ∀ d ∈ between, combiningClass d ≤ combiningClass c := fun d mem =>
    (h.next c rfl d mem).resolve_left mark
  refine ⟨List.forall_mem_cons.2 ⟨mark, h.marks⟩, ?_, ?_, h.ordered.tail⟩
  · intro d first
    obtain rfl := Option.some.inj first
    exact List.forall_mem_cons.2 ⟨Nat.le_refl _, below⟩
  · intro e first
    obtain ⟨rest', rfl⟩ := List.head?_eq_some_iff.1 first
    have after : MayFollow c e := (List.isChain_cons_cons.1 h.ordered).1
    refine List.forall_mem_cons.2 ⟨after, fun d mem => ?_⟩
    exact after.imp_right (Nat.le_trans (below d mem))

/-- A character that is not kept from being composed has a higher class than all in between. -/
theorem less (h : Awaits between (c :: rest))
    (free : between.head?.any (fun d => decide (combiningClass c ≤ combiningClass d)) = false) :
    ∀ d ∈ between, combiningClass d < combiningClass c := by
  cases between with
  | nil => exact fun _ mem => (List.not_mem_nil mem).elim
  | cons d between =>
      rw [List.head?_cons, Option.any_some, decide_eq_false_iff_not] at free
      intro e mem
      have highest : combiningClass e ≤ combiningClass d := h.last d rfl e mem
      omega

/-- The next character has been composed. -/
theorem tail (h : Awaits between (c :: rest))
    (less : ∀ d ∈ between, combiningClass d < combiningClass c) : Awaits between rest := by
  refine ⟨h.marks, h.last, fun e first d mem => ?_, h.ordered.tail⟩
  obtain ⟨rest', rfl⟩ := List.head?_eq_some_iff.1 first
  have after : MayFollow c e := (List.isChain_cons_cons.1 h.ordered).1
  exact after.imp_right (Nat.le_trans (Nat.le_of_lt (less d mem)))

end Awaits

/-- No character of the text has parts. -/
def AllSimple (s : List Char) : Prop := ∀ c ∈ s, IsSimple c.toNat

theorem AllSimple.decompose {s : List Char} (h : AllSimple s) : decompose s = s := by
  rw [decompose_eq]
  induction s with
  | nil => rfl
  | cons c s ih =>
      obtain ⟨here, rest⟩ := List.forall_mem_cons.1 h
      rw [List.flatMap_cons, here.decomposed, ih rest, List.singleton_append]

theorem decompose_cons (c : Char) (s : List Char) :
    decompose (c :: s) = decomposed c ++ decompose s := by
  rw [decompose_eq, decompose_eq, List.flatMap_cons]

theorem decompose_append (s t : List Char) : decompose (s ++ t) = decompose s ++ decompose t := by
  rw [decompose_eq, decompose_eq, decompose_eq, List.flatMap_append]

/-- What has been composed after a character is decomposed into what it came from, up to the order
of the marks.  The induction goes through the text that is composed, from any text before it. -/
theorem decompose_composeFrom {start : Char} {between rest : List Char}
    (h : Awaits between rest) (simple : AllSimple (between ++ rest)) (before : List Char) :
    (decompose (composeFrom start between rest)).foldl place before
      = (decomposed start ++ between.reverse ++ rest).foldl place before := by
  induction rest generalizing start between before with
  | nil =>
      rw [composeFrom, decompose_cons, AllSimple.decompose, List.append_nil]
      intro c mem
      exact simple c (by simpa using mem)
  | cons c rest ih =>
      obtain ⟨waiting, here, later⟩ : AllSimple between ∧ IsSimple c.toNat ∧ AllSimple rest := by
        simpa [AllSimple, or_imp, forall_and] using simple
      rw [composeFrom]
      split
      next whole composed =>
        -- The character is composed: it may as well have come before the marks in between.
        obtain ⟨free, composed⟩ := Option.ite_none_left_eq_some.1 composed
        have less := h.less (Bool.eq_false_iff.2 free)
        have lower : ∀ d ∈ between.reverse,
            combiningClass d ≠ 0 ∧ combiningClass d < combiningClass c := fun d mem =>
          have mem := List.mem_reverse.1 mem
          ⟨h.marks d mem, less d mem⟩
        rw [ih (h.tail less) (List.forall_mem_append.2 ⟨waiting, later⟩),
          decomposed_of_composed? composed, here.decomposed, List.foldl_append, List.foldl_append,
          List.foldl_append, List.foldl_cons, List.foldl_nil, ← foldl_place_comm lower,
          List.foldl_append, List.foldl_append, List.foldl_cons]
      next =>
        split
        next starts =>
          rw [List.cons_append, decompose_cons, decompose_append, List.append_assoc,
            AllSimple.decompose fun d mem => waiting d (List.mem_reverse.1 mem)]
          simp only [List.foldl_append]
          have next : Awaits [] rest := .nil h.ordered.tail
          rw [ih next later, here.decomposed, List.reverse_nil, List.append_nil,
            List.singleton_append]
        next mark =>
          have still := List.forall_mem_append.2 ⟨waiting, later⟩
          rw [ih (h.cons mark) (List.forall_mem_cons.2 ⟨here, still⟩), List.reverse_cons]
          simp only [List.append_assoc, List.singleton_append]

/-- What has been composed is decomposed into what it came from, up to the order of the marks. -/
theorem foldl_place_decompose_compose {s : List Char} (ordered : IsOrdered s) (simple : AllSimple s)
    (before : List Char) : (decompose (compose s)).foldl place before = s.foldl place before := by
  induction s generalizing before with
  | nil => rfl
  | cons c rest ih =>
      obtain ⟨here, later⟩ := List.forall_mem_cons.1 simple
      rw [compose]
      split
      next =>
        have next : Awaits [] rest := .nil ordered.tail
        rw [decompose_composeFrom next later, here.decomposed]
        rfl
      next =>
        rw [decompose_cons, here.decomposed, List.singleton_append, List.foldl_cons,
          ih ordered.tail later, List.foldl_cons]

/-- A text in order whose characters have no parts comes back from what it is composed to. -/
theorem reorder_decompose_compose {s : List Char} (ordered : IsOrdered s) (simple : AllSimple s) :
    reorder (decompose (compose s)) = s := by
  rw [reorder_eq, foldl_place_decompose_compose ordered simple, ← reorder_eq,
    reorder_of_isOrdered ordered]

/-! ### Basic characters -/

-- The characters of a table are a list as long as the table is.
set_option maxRecDepth 1000000 in
/-- All characters of other classes than zero come after the Latin ones. -/
theorem combiningClasses_above :
    combiningClasses.all (fun entry => decide (0x300 ≤ entry.headD 0)) = true := by
  unfold combiningClasses
  with_reducible rw [Table.entries_ofList]
  decide +kernel

theorem combiningClass_of_lt {c : Char} (h : c.toNat < 0x300) : combiningClass c = 0 := by
  rw [combiningClass, Table.find?_of_lt combiningClasses_above h]
  rfl

/-- Nothing is composed with a basic character after it. -/
theorem composed?_of_lt {b : Char} (h : b.toNat < 0x300) (a : Char) : composed? a b = none := by
  rw [Option.eq_none_iff_forall_ne_some]
  intro c composed
  rcases exists_composes_of_composed? composed with ⟨n, syllable, -⟩ | ⟨w, composes, -⟩
  · have second := jamo_of_syllable? syllable
    omega
  · have second := composes.second_le
    omega

/-- Basic characters are composed with nothing. -/
theorem composeFrom_of_lt {start : Char} {rest : List Char} (h : ∀ c ∈ rest, c.toNat < 0x300) :
    composeFrom start [] rest = start :: rest := by
  induction rest generalizing start with
  | nil => rw [composeFrom, List.reverse_nil]
  | cons c rest ih =>
      obtain ⟨here, later⟩ := List.forall_mem_cons.1 h
      rw [composeFrom, composed?_of_lt here, ite_self]
      dsimp only
      rw [if_pos (combiningClass_of_lt here), ih later, List.reverse_nil, List.singleton_append]

theorem compose_of_lt {s : List Char} (h : ∀ c ∈ s, c.toNat < 0x300) : compose s = s := by
  cases s with
  | nil => rfl
  | cons c rest =>
      obtain ⟨here, later⟩ := List.forall_mem_cons.1 h
      rw [compose, if_pos (combiningClass_of_lt here), composeFrom_of_lt later]

theorem isOrdered_of_lt {s : List Char} (h : ∀ c ∈ s, c.toNat < 0x300) : IsOrdered s := by
  induction s with
  | nil => exact .nil
  | cons c s ih =>
      cases s with
      | nil => exact .singleton c
      | cons d s =>
          obtain ⟨-, later⟩ := List.forall_mem_cons.1 h
          exact .cons_cons (.inl (combiningClass_of_lt (later d List.mem_cons_self))) (ih later)

/-- Texts of basic characters are no exception from the normal form. -/
theorem normalize_eq (s : List Char) : normalize s = compose (reorder (decompose s)) := by
  rw [normalize]
  split
  next basic =>
    simp only [List.all_eq_true, decide_eq_true_eq] at basic
    have simple : AllSimple s := fun c mem => isSimple_of_lt (basic c mem)
    have low : ∀ c ∈ s, c.toNat < 0x300 := fun c mem => Nat.lt_trans (basic c mem) (by decide)
    rw [simple.decompose, reorder_of_isOrdered (isOrdered_of_lt low), compose_of_lt low]
  next => rfl

/-- A text is composed from one in order whose characters have no parts. -/
theorem allSimple_reorder (s : List Char) : AllSimple (reorder (decompose s)) := by
  intro c mem
  have mem := (perm_reorder _).mem_iff.1 mem
  rw [decompose_eq] at mem
  obtain ⟨d, -, part⟩ := List.mem_flatMap.1 mem
  exact isSimple_of_mem_decomposed part

theorem normalize_compose {s : List Char} (ordered : IsOrdered s) (simple : AllSimple s) :
    normalize (compose s) = compose s := by
  rw [normalize_eq, reorder_decompose_compose ordered simple]

/-- A normal form is its own normal form. -/
theorem normalize_normalize (s : List Char) : normalize (normalize s) = normalize s := by
  rw [normalize_eq s]
  exact normalize_compose (isOrdered_reorder _) (allSimple_reorder s)

/-! ### What holds of all characters of a normal form -/

section Forall

variable {p : Char → Prop}

theorem forall_mem_composeFrom (closed : ∀ a b c, composed? a b = some c → p a → p b → p c)
    {start : Char} {between rest : List Char} (first : p start) (waiting : ∀ c ∈ between, p c)
    (h : ∀ c ∈ rest, p c) : ∀ c ∈ composeFrom start between rest, p c := by
  induction rest generalizing start between with
  | nil =>
      rw [composeFrom, List.forall_mem_cons]
      exact ⟨first, fun c mem => waiting c (List.mem_reverse.1 mem)⟩
  | cons c rest ih =>
      obtain ⟨here, later⟩ := List.forall_mem_cons.1 h
      rw [composeFrom]
      split
      next whole composed =>
        have composed := (Option.ite_none_left_eq_some.1 composed).2
        exact ih (closed _ _ _ composed first here) waiting later
      next =>
        split
        next =>
          rw [List.cons_append, List.forall_mem_cons, List.forall_mem_append]
          refine ⟨first, fun d mem => waiting d (List.mem_reverse.1 mem), ?_⟩
          exact ih here (fun d mem => (List.not_mem_nil mem).elim) later
        next => exact ih first (List.forall_mem_cons.2 ⟨here, waiting⟩) later

/-- What holds of the characters of a text, and of what is composed, holds of what the text is
composed to. -/
theorem forall_mem_compose (closed : ∀ a b c, composed? a b = some c → p a → p b → p c)
    {s : List Char} (h : ∀ c ∈ s, p c) : ∀ c ∈ compose s, p c := by
  induction s with
  | nil => exact h
  | cons c rest ih =>
      obtain ⟨here, later⟩ := List.forall_mem_cons.1 h
      rw [compose]
      split
      next =>
        exact forall_mem_composeFrom closed here (fun d mem => (List.not_mem_nil mem).elim) later
      next => exact List.forall_mem_cons.2 ⟨here, ih later⟩

/-- What holds of the characters of a text, of what is composed and of what is decomposed, holds of
the normal form. -/
theorem forall_mem_normalize (closed : ∀ a b c, composed? a b = some c → p a → p b → p c)
    (parts : ∀ c, p c → ∀ d ∈ decomposed c, p d) {s : List Char} (h : ∀ c ∈ s, p c) :
    ∀ c ∈ normalize s, p c := by
  rw [normalize_eq]
  refine forall_mem_compose closed fun c mem => ?_
  have mem := (perm_reorder _).mem_iff.1 mem
  rw [decompose_eq] at mem
  obtain ⟨d, mem, part⟩ := List.mem_flatMap.1 mem
  exact parts d (h d mem) c part

end Forall

/-! ### Periods -/

/-- A period is composed with nothing before it and nothing after it. -/
theorem composed?_dot_left (b : Char) : composed? '.' b = none := by
  rw [Option.eq_none_iff_forall_ne_some]
  intro c composed
  rcases exists_composes_of_composed? composed with ⟨n, syllable, -⟩ | ⟨w, composes, -⟩
  · unfold syllable? at syllable
    simp [isSyllable] at syllable
  · exact composes.first_ne rfl

theorem composed?_dot_right (a : Char) : composed? a '.' = none := composed?_of_lt (by decide) a

/-- No basic character is composed. -/
theorem le_of_composed? {a b c : Char} (h : composed? a b = some c) : 0xC0 ≤ c.toNat := by
  rcases exists_composes_of_composed? h with ⟨n, syllable, rfl⟩ | ⟨w, composes, rfl⟩
  · have range := isSyllable_iff.1 (jamo_of_syllable? syllable).1
    rw [toNat_ofNat (.inl (by omega))]
    omega
  · rw [toNat_ofNat composes.valid.1]
    exact composes.whole_le

/-- What follows a period is composed for itself. -/
theorem composeFrom_dot (between rest : List Char) :
    composeFrom '.' between rest = '.' :: between.reverse ++ compose rest := by
  induction rest generalizing between with
  | nil => rw [composeFrom, compose, List.append_nil]
  | cons c rest ih =>
      rw [composeFrom, compose, composed?_dot_left, ite_self]
      dsimp only
      split
      next => rfl
      next =>
        rw [ih, List.reverse_cons, List.cons_append, List.append_assoc]
        rfl

theorem composeFrom_append_dot (start : Char) (between s t : List Char) :
    composeFrom start between (s ++ '.' :: t)
      = composeFrom start between s ++ '.' :: compose t := by
  induction s generalizing start between with
  | nil =>
      have zero : combiningClass '.' = 0 := combiningClass_of_lt (by decide)
      rw [List.nil_append, composeFrom, composeFrom, composed?_dot_right, ite_self]
      dsimp only
      rw [if_pos zero, composeFrom_dot, List.reverse_nil]
      rfl
  | cons c s ih =>
      rw [List.cons_append, composeFrom, composeFrom]
      split
      next => exact ih _ _
      next =>
        split
        next => rw [ih, List.append_assoc]
        next => exact ih _ _

/-- The texts before and after a period are composed each for itself. -/
theorem compose_append_dot (s t : List Char) :
    compose (s ++ '.' :: t) = compose s ++ '.' :: compose t := by
  induction s with
  | nil =>
      have zero : combiningClass '.' = 0 := combiningClass_of_lt (by decide)
      rw [List.nil_append, compose, compose, if_pos zero, composeFrom_dot]
      rfl
  | cons c s ih =>
      rw [List.cons_append, compose, compose]
      split
      next => exact composeFrom_append_dot c [] s t
      next => rw [ih, List.cons_append]

/-! ### Pieces of texts -/

section Pieces

variable {p : Char → Bool}

/-- What holds of texts without separators, and of two texts with a separator between them if it
holds of both, holds of every text. -/
theorem induction_on_pieces {P : List Char → Prop} (whole : ∀ s, (∀ c ∈ s, p c = false) → P s)
    (cut : ∀ s c t, p c = true → P s → P t → P (s ++ c :: t)) (s : List Char) : P s := by
  induction h : s.length using Nat.strong_induction_on generalizing s with
  | _ n ih =>
    by_cases some : ∃ c ∈ s, p c = true
    · obtain ⟨c, mem, sep⟩ := some
      obtain ⟨before, after, rfl⟩ := List.append_of_mem mem
      rw [List.length_append, List.length_cons] at h
      exact cut before c after sep (ih before.length (by omega) before rfl)
        (ih after.length (by omega) after rfl)
    · exact whole s fun c mem => Bool.eq_false_iff.2 fun sep => some ⟨c, mem, sep⟩

theorem infix_of_mem_splitOnP {s piece : List Char} (h : piece ∈ s.splitOnP p) : piece <:+: s := by
  induction s using induction_on_pieces (p := p) with
  | whole s none =>
      rw [List.splitOnP_eq_singleton none, List.mem_singleton] at h
      exact h ▸ List.infix_refl s
  | cut s c t sep hs ht =>
      rw [List.splitOnP_append_cons s t sep, List.mem_append] at h
      rcases h with h | h
      · exact (hs h).trans (List.prefix_append s _).isInfix
      · exact (ht h).trans ((List.suffix_cons c t).trans (List.suffix_append s _)).isInfix

/-- No separator is left in a piece. -/
theorem eq_false_of_mem_splitOnP {s piece : List Char} (h : piece ∈ s.splitOnP p) :
    ∀ c ∈ piece, p c = false := by
  induction s using induction_on_pieces (p := p) with
  | whole s none =>
      rw [List.splitOnP_eq_singleton none, List.mem_singleton] at h
      exact h ▸ none
  | cut s c t sep hs ht =>
      rw [List.splitOnP_append_cons s t sep, List.mem_append] at h
      exact h.elim hs ht

end Pieces

/-- The texts between periods are composed each for itself. -/
theorem splitOnP_compose (s : List Char) :
    (compose s).splitOnP (· = '.') = (s.splitOnP (· = '.')).map compose := by
  induction s using induction_on_pieces (p := (· = '.')) with
  | whole s none =>
      have noDot : ∀ c ∈ compose s, decide (c = '.') = false := by
        refine forall_mem_compose (fun a b c composed _ _ => decide_eq_false ?_) none
        rintro rfl
        exact absurd (le_of_composed? composed) (by decide)
      rw [List.splitOnP_eq_singleton none, List.map_singleton, List.splitOnP_eq_singleton noDot]
  | cut s c t sep hs ht =>
      obtain rfl := of_decide_eq_true sep
      have cut (s t : List Char) : (s ++ '.' :: t).splitOnP (· = '.')
          = s.splitOnP (· = '.') ++ t.splitOnP (· = '.') := List.splitOnP_append_cons s t sep
      rw [compose_append_dot, cut, cut, hs, ht, List.map_append]

/-- The texts between the periods of a normal form are in normal form. -/
theorem normalize_of_mem_splitOnP {s piece : List Char}
    (h : piece ∈ (normalize s).splitOnP (· = '.')) : normalize piece = piece := by
  rw [normalize_eq, splitOnP_compose] at h
  obtain ⟨part, mem, rfl⟩ := List.mem_map.1 h
  have inside := infix_of_mem_splitOnP mem
  have ordered : IsOrdered part := by
    obtain ⟨before, after, eq⟩ := inside
    have whole : IsOrdered (before ++ part ++ after) := eq ▸ isOrdered_reorder _
    exact whole.left_of_append.right_of_append
  refine normalize_compose ordered fun c mem => ?_
  exact allSimple_reorder s c (inside.subset mem)

end WebDriverClient.Text
