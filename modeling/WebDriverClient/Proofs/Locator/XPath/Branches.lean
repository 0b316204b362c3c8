/-
**Anchoring any text.**

The scan that anchors an XPath expression does not ask whether it has one before it.  On any text,
also one with strings that are not closed and with brackets that do not match, what it does can be
said without a scan: the text is divided at the signs of union that stand outside of strings and
outside of brackets, a period is put into each part that begins with two slashes, and the parts are
joined again.

What is open at a place depends on the text before it only.  So each character is taken together
with what comes before it, and the text is divided at the characters that are dividers there.

Main definitions:

* `XPath.quoteAfter`, `XPath.depthAfter` — the string and the brackets that are open after a text;
* `XPath.branches` — the parts of a text between its dividers;
* `XPath.anchorBranch` — a part with a period before its two slashes.

Main results:

* `XPath.anchorFrom_eq_join` — the scan, from any place in a text;
* `XPath.anchor_eq_join` — **anchoring is dividing, putting periods and joining**, it loses no
  character, and doing it again changes nothing.
-/

import WebDriverClient.Locator.Query

set_option autoImplicit false

namespace WebDriverClient.Locator.XPath

/-! ### What is open after a text -/

/-- The quote of the string that is open after a text. -/
def quoteAfter (text : List Char) : Option Char :=
  text.foldl (fun quote c =>
    match quote with
    | some q => if q = c then none else some q
    | none => if c = '"' ∨ c = '\'' then some c else none) none

/-- The characters of a text, each with what comes before it, when the text itself comes after
`before`. -/
def placesFrom (before : List Char) : List Char → List (List Char × Char)
  | [] => []
  | c :: rest => (before, c) :: placesFrom (before ++ [c]) rest

/-- The characters of a text, each with what comes before it. -/
def places (text : List Char) : List (List Char × Char) := placesFrom [] text

/-- The characters of a text that stand outside of its strings. -/
def outsideStrings (text : List Char) : List Char :=
  ((places text).filter fun p => quoteAfter p.1 = none).map (·.2)

/-- How many brackets are open after one more character; one too many closed is not counted. -/
def countBracket (depth : Nat) (c : Char) : Nat :=
  if c = '[' ∨ c = '(' then depth + 1
  else if c = ']' ∨ c = ')' then depth - 1
  else depth

/-- How many brackets are open after a text. -/
def depthAfter (text : List Char) : Nat := (outsideStrings text).foldl countBracket 0

/-- The character is a sign of union that stands outside of strings and of brackets. -/
def isDivider (before : List Char) (c : Char) : Bool :=
  c = '|' && quoteAfter before = none && depthAfter before = 0

/-! ### Parts -/

/-- The parts of a text that comes after `before`. -/
def branchesFrom (before text : List Char) : List (List Char) :=
  ((placesFrom before text).splitOnP fun p => isDivider p.1 p.2).map (·.map (·.2))

/-- The parts of a text between its dividers. -/
def branches (text : List Char) : List (List Char) := branchesFrom [] text

/-- A part with a period after its blanks, if two slashes come there. -/
def anchorBranch (part : List Char) : List Char :=
  let start := part.dropWhile Text.isBlank
  part.takeWhile Text.isBlank ++ if ['/', '/'].isPrefixOf start then '.' :: start else start

/-- Parts with the sign of union between them. -/
def join (parts : List (List Char)) : List Char := ['|'].intercalate parts

/-! ### Places -/

theorem placesFrom_append (before s t : List Char) :
    placesFrom before (s ++ t) = placesFrom before s ++ placesFrom (before ++ s) t := by
  induction s generalizing before with
  | nil => simp [placesFrom]
  | cons c s ih => simp [placesFrom, ih]

theorem places_concat (text : List Char) (c : Char) :
    places (text ++ [c]) = places text ++ [(text, c)] := by
  simp [places, placesFrom_append, placesFrom]

theorem quoteAfter_concat (text : List Char) (c : Char) :
    quoteAfter (text ++ [c]) =
      match quoteAfter text with
      | some q => if q = c then none else some q
      | none => if c = '"' ∨ c = '\'' then some c else none := by
  simp [quoteAfter]

/-- In a string brackets do not count. -/
theorem depthAfter_concat (text : List Char) (c : Char) :
    depthAfter (text ++ [c]) =
      if quoteAfter text = none then countBracket (depthAfter text) c else depthAfter text := by
  by_cases outside : quoteAfter text = none
  · simp [depthAfter, outsideStrings, places_concat, outside]
  · simp [depthAfter, outsideStrings, places_concat, outside]

/-! ### Dividing and joining -/

theorem branchesFrom_nil (before : List Char) : branchesFrom before [] = [[]] := rfl

theorem branchesFrom_cons (before : List Char) (c : Char) (rest : List Char) :
    branchesFrom before (c :: rest) =
      if isDivider before c then [] :: branchesFrom (before ++ [c]) rest
      else (branchesFrom (before ++ [c]) rest).modifyHead (c :: ·) := by
  rw [branchesFrom, placesFrom, List.splitOnP_cons_eq_if_modifyHead]
  split
  next => rfl
  next =>
    -- The place comes into the first part, whichever that is.
    cases parts : (placesFrom (before ++ [c]) rest).splitOnP fun p => isDivider p.1 p.2 with
    | nil => exact absurd parts (List.splitOnP_ne_nil _ _)
    | cons first more => simp [branchesFrom, parts]

theorem branchesFrom_ne_nil (before text : List Char) : branchesFrom before text ≠ [] := by
  rw [branchesFrom, Ne, List.map_eq_nil_iff]
  exact List.splitOnP_ne_nil _ _

theorem join_nil_cons (part : List Char) (more : List (List Char)) :
    join ([] :: part :: more) = '|' :: join (part :: more) := by
  simp [join]

theorem join_cons (c : Char) (first : List Char) (more : List (List Char)) :
    join ((c :: first) :: more) = c :: join (first :: more) := by
  cases more <;> simp [join]

/-- Joining undoes dividing. -/
theorem join_branchesFrom (before text : List Char) : join (branchesFrom before text) = text := by
  induction text generalizing before with
  | nil => rfl
  | cons c rest ih =>
      have later := ih (before ++ [c])
      obtain ⟨first, more, parts⟩ :=
        List.exists_cons_of_ne_nil (branchesFrom_ne_nil (before ++ [c]) rest)
      rw [parts] at later
      rw [branchesFrom_cons, parts]
      split
      next divides =>
        obtain rfl : c = '|' := by
          simp only [isDivider, Bool.and_eq_true, decide_eq_true_eq] at divides
          exact divides.1.1
        rw [join_nil_cons, later]
      next => rw [List.modifyHead_cons, join_cons, later]

/-- The first part begins as the text does, as far as no divider is asked for. -/
theorem head?_branchesFrom {before rest first : List Char} {more : List (List Char)}
    (parts : branchesFrom before rest = first :: more) {c : Char} (other : c ≠ '|') :
    first.head? = some c ↔ rest.head? = some c := by
  cases rest with
  | nil =>
      rw [branchesFrom_nil] at parts
      obtain ⟨rfl, -⟩ := List.cons.inj parts
      rfl
  | cons d rest =>
      rw [branchesFrom_cons] at parts
      split at parts
      next divides =>
        obtain ⟨rfl, -⟩ := List.cons.inj parts
        simp only [isDivider, Bool.and_eq_true, decide_eq_true_eq] at divides
        simp [divides.1.1, other.symm]
      next =>
        obtain ⟨head, tail, more⟩ :=
          List.exists_cons_of_ne_nil (branchesFrom_ne_nil (before ++ [d]) rest)
        rw [more, List.modifyHead_cons] at parts
        obtain ⟨rfl, -⟩ := List.cons.inj parts
        rfl

/-! ### Periods -/

theorem anchorBranch_blank {c : Char} (blank : Text.isBlank c = true) (part : List Char) :
    anchorBranch (c :: part) = c :: anchorBranch part := by
  simp [anchorBranch, blank]

theorem anchorBranch_visible {c : Char} (visible : Text.isBlank c = false) (part : List Char) :
    anchorBranch (c :: part) =
      if c = '/' ∧ part.head? = some '/' then '.' :: c :: part else c :: part := by
  cases part with
  | nil => simp [anchorBranch, visible]
  | cons d part =>
      simp only [anchorBranch, visible, Bool.false_eq_true, not_false_eq_true,
        List.dropWhile_cons_of_neg, List.takeWhile_cons_of_neg, List.nil_append,
        List.isPrefixOf_cons_cons, List.isPrefixOf_nil_left, Bool.and_true, Bool.and_eq_true,
        beq_iff_eq, List.head?_cons, Option.some.injEq]
      simp only [eq_comm]

/-! ### The scan -/

/-- The scan knows what is open after a text. -/
structure Knows (s : Scan) (before : List Char) : Prop where
  quote : s.quote = quoteAfter before
  depth : s.depth = depthAfter before

theorem knows_initial : Knows .initial [] := ⟨rfl, rfl⟩

/-- One more character. -/
theorem Knows.next {s : Scan} {before : List Char} (h : Knows s before) (c : Char) :
    Knows (s.next c) (before ++ [c]) := by
  obtain ⟨quote, depth⟩ := h
  unfold Scan.next
  constructor
  · rw [quoteAfter_concat, ← quote]
    cases s.quote with
    | some q => rfl
    | none => grind
  · rw [depthAfter_concat, ← quote, ← depth]
    cases s.quote with
    | some q => rfl
    | none => grind [countBracket]

/-- A branch begins behind a divider, and goes on to begin until it has a character that is not a
blank. -/
theorem Knows.atStart_next {s : Scan} {before : List Char} (h : Knows s before) (c : Char) :
    (s.next c).atStart = (s.atStart && Text.isBlank c || isDivider before c) := by
  rw [isDivider, ← h.quote, ← h.depth]
  unfold Scan.next
  cases s.quote with
  | some q => simp
  | none => grind

/-- The scan from any place in a text.  Whether the first part still begins is the scan's to know;
all other parts are anchored from their beginning. -/
theorem anchorFrom_eq_join {s : Scan} {before : List Char} (knows : Knows s before)
    {text first : List Char} {more : List (List Char)}
    (parts : branchesFrom before text = first :: more) :
    anchorFrom s text =
      join ((if s.atStart then anchorBranch first else first) :: more.map anchorBranch) := by
  induction text generalizing s before first more with
  | nil =>
      obtain ⟨rfl, rfl⟩ := List.cons.inj parts
      simp [anchorFrom, join, anchorBranch]
  | cons c rest ih =>
      obtain ⟨head, tail, later⟩ :=
        List.exists_cons_of_ne_nil (branchesFrom_ne_nil (before ++ [c]) rest)
      have step := ih (knows.next c) later
      rw [knows.atStart_next c] at step
      rw [branchesFrom_cons, later] at parts
      cases divides : isDivider before c with
      | true =>
          -- The part before the divider is empty here, and a part begins behind it.
          obtain ⟨rfl, -⟩ : c = '|' ∧ _ := by
            simpa only [isDivider, Bool.and_eq_true, decide_eq_true_eq, and_assoc] using divides
          rw [if_pos divides] at parts
          obtain ⟨rfl, rfl⟩ := List.cons.inj parts
          rw [divides, Bool.or_true, if_pos rfl] at step
          have empty : anchorBranch [] = [] := rfl
          rw [anchorFrom, step, empty, ite_self, List.map_cons, join_nil_cons]
          simp
      | false =>
          rw [if_neg (Bool.eq_false_iff.1 divides), List.modifyHead_cons] at parts
          obtain ⟨rfl, rfl⟩ := List.cons.inj parts
          rw [divides, Bool.or_false] at step
          have slash := head?_branchesFrom later (c := '/') (by decide)
          rw [anchorFrom, step]
          cases start : s.atStart with
          | false => simp [join_cons]
          | true =>
              cases blank : Text.isBlank c with
              | true =>
                  have other : c ≠ '/' := by
                    rintro rfl
                    exact absurd blank (by decide)
                  simp [anchorBranch_blank blank, join_cons, other]
              | false =>
                  rw [anchorBranch_visible blank]
                  by_cases two : c = '/' ∧ rest.head? = some '/'
                  · simp [slash, two, join_cons]
                  · have none : (decide (c = '/') && decide (rest.head? = some '/')) = false := by
                      simpa using two
                    simp [slash, two, none, join_cons]

/-! ### Anchoring twice -/

/-- A scan at the start of a branch is not in a string. -/
def IsOutside (s : Scan) : Prop := s.atStart = true → s.quote = none

theorem IsOutside.next {s : Scan} (h : IsOutside s) (c : Char) : IsOutside (s.next c) := by
  intro start
  have marks : Text.isBlank '"' = false ∧ Text.isBlank '\'' = false := by decide
  unfold Scan.next at start ⊢
  cases quote : s.quote with
  | some q =>
      -- In a string no branch begins, and its quote does not begin one either.
      have middle : s.atStart = false := by
        refine Bool.eq_false_iff.2 fun begins => ?_
        exact absurd (quote.symm.trans (h begins)) (by simp)
      simp [quote, middle] at start
  | none => grind

/-- In the middle of a branch the text goes on as it did before. -/
theorem head?_anchorFrom {s : Scan} (middle : s.atStart = false) (text : List Char) :
    (anchorFrom s text).head? = text.head? := by
  cases text with
  | nil => rfl
  | cons c rest => simp [anchorFrom, middle]

/-- What is anchored stays as it is: no slash comes at the start of a branch, and the periods do not
change what is open. -/
theorem anchorFrom_anchorFrom {s : Scan} (outside : IsOutside s) (text : List Char) :
    anchorFrom s (anchorFrom s text) = anchorFrom s text := by
  induction text generalizing s with
  | nil => rfl
  | cons c rest ih =>
      have later := ih (outside.next c)
      rw [anchorFrom]
      by_cases two : (s.atStart && c = '/' && rest.head? = some '/') = true
      · simp only [Bool.and_eq_true, decide_eq_true_eq] at two
        obtain ⟨⟨start, rfl⟩, next⟩ := two
        have period : (s.next '.').next '/' = s.next '/' := by
          simp [Scan.next, outside start, Text.isBlank]
        have middle : (s.next '.').atStart = false := by
          simp [Scan.next, outside start, Text.isBlank]
        simp [anchorFrom, start, next, middle, period, later]
      · rw [if_neg two]
        have one : (s.atStart && c = '/' && (anchorFrom (s.next c) rest).head? = some '/')
            = (s.atStart && c = '/' && rest.head? = some '/') := by
          by_cases slash : s.atStart = true ∧ c = '/'
          · obtain ⟨start, rfl⟩ := slash
            have middle : (s.next '/').atStart = false := by
              simp [Scan.next, outside start, Text.isBlank]
            rw [head?_anchorFrom middle]
          · have none : (s.atStart && decide (c = '/')) = false := by simpa using slash
            rw [none, Bool.false_and, Bool.false_and]
        rw [anchorFrom, one, if_neg two, later]

/-- All characters are kept in their order. -/
theorem sublist_anchorFrom (s : Scan) (text : List Char) : text.Sublist (anchorFrom s text) := by
  induction text generalizing s with
  | nil => exact List.Sublist.slnil
  | cons c rest ih =>
      have kept : (c :: rest).Sublist (c :: anchorFrom (s.next c) rest) := (ih (s.next c)).cons_cons c
      rw [anchorFrom]
      split
      next => exact kept.cons '.'
      next => exact kept

/-- Anchoring divides a text at its dividers, puts a period into each part that begins with two
slashes, and joins the parts again.  Dividing and joining lose nothing, so all characters are kept
in their order, and a text that has been anchored stays as it is. -/
theorem anchor_eq_join (text : List Char) :
    anchor text = join ((branches text).map anchorBranch)
      ∧ join (branches text) = text
      ∧ text.Sublist (anchor text)
      ∧ anchor (anchor text) = anchor text := by
  have outside : IsOutside .initial := fun _ => rfl
  have divided : anchor text = join ((branches text).map anchorBranch) := by
    obtain ⟨first, more, parts⟩ := List.exists_cons_of_ne_nil (branchesFrom_ne_nil [] text)
    rw [anchor, anchorFrom_eq_join knows_initial parts, branches, parts]
    rfl
  exact ⟨divided, join_branchesFrom [] text, sublist_anchorFrom _ text,
    anchorFrom_anchorFrom outside text⟩

/-- A bracket too many does not hide a divider, and a string that is not closed hides all of them. -/
example : anchor "//a)| //b|'//c|//d".toList = ".//a)| .//b|'//c|//d".toList := by decide

end WebDriverClient.Locator.XPath
