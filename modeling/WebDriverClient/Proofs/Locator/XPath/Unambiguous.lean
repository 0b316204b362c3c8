/-
**The grammar of XPath 1.0 is unambiguous.**

The productions group operators to the left, so a derivation does not say where the left operand of
an operator ends.  A second relation reads tokens from the left, one decision for each token, and
keeps what it has read so far in its goal.  It has at most one outcome, and every derivation is
read, as long as the token that follows does not belong to it.

Main definitions:

* `XPath.Goal` — what is being read, with what has been read of it;
* `XPath.Reads` — reading from the left.

Main results:

* `XPath.Reads.unique` — reading has at most one outcome;
* `XPath.Derives.completes` — what the grammar derives is read;
* `XPath.Parses.unique` — **a text has at most one tree**.
-/

import WebDriverClient.Proofs.Locator.XPath.Grammar

set_option autoImplicit false

namespace WebDriverClient.Locator.XPath

/-! ### Reading from the left -/

/-- The token starts a step. -/
def Token.startsStep : Token → Bool
  | .dot | .dots | .at | .axis _ | .nameTest _ | .nodeType _ => true
  | _ => false

/-- The token starts a primary expression. -/
def Token.startsPrimary : Token → Bool
  | .reference _ | .leftParen | .literal _ | .number _ | .function _ => true
  | _ => false

/-- What is being read, with what has been read of it. -/
inductive Goal where
  | whole (s : Symbol)
  | operators (l : Level) (left : Expr)
  | joining (inner : Expr)
  | steps (path : Expr)
  | test (a : Axis)
  | predicates (a : Axis) (t : NodeTest) (before : List Expr)
  | filters (inner : Expr)
  | arguments (f : QName) (before : List Expr)

/-- Reads tokens for a goal: the tree, and the tokens that are left. -/
inductive Reads : Goal → List Token → Expr → List Token → Prop
  | chain {l : Level} {ts us vs : List Token} {L E : Expr} (h : Reads (.whole l.operand) ts L us)
      (hs : Reads (.operators l L) us E vs) : Reads (.whole (.chain l)) ts E vs
  | operator {l : Level} {o : BinaryOperator} {ts us vs : List Token} {L R E : Expr}
      (ho : o.level = l) (h : Reads (.whole l.operand) ts R us)
      (hs : Reads (.operators l (.binary o L R)) us E vs) :
      Reads (.operators l L) (.operator o :: ts) E vs
  | noOperator {l : Level} {ts : List Token} {L : Expr}
      (h : ∀ o, ts.head? = some (.operator o) → o.level ≠ l) : Reads (.operators l L) ts L ts
  | negative {ts us : List Token} {E : Expr} (h : Reads (.whole .unary) ts E us) :
      Reads (.whole .unary) (.operator .minus :: ts) (.negative E) us
  | positive {ts us : List Token} {E : Expr} (hm : ts.head? ≠ some (.operator .minus))
      (h : Reads (.whole (.chain .union)) ts E us) : Reads (.whole .unary) ts E us
  | root {ts : List Token} (h : ts.head?.any Token.startsStep = false) :
      Reads (.whole .path) (.separator .slash :: ts) .root ts
  | absolute {s : Separator} {ts us : List Token} {P : Expr}
      (hs : ts.head?.any Token.startsStep = true) (h : Reads (.whole .relative) ts P us) :
      Reads (.whole .path) (.separator s :: ts) (.absolute s P) us
  | location {ts us : List Token} {P : Expr} (hs : ts.head?.any Token.startsStep = true)
      (h : Reads (.whole .relative) ts P us) : Reads (.whole .path) ts P us
  | filter {ts us vs : List Token} {E P : Expr} (hs : ts.head?.any Token.startsPrimary = true)
      (h : Reads (.whole .filter) ts E us) (hj : Reads (.joining E) us P vs) :
      Reads (.whole .path) ts P vs
  | joined {s : Separator} {ts us : List Token} {E P : Expr}
      (h : Reads (.whole .relative) ts P us) :
      Reads (.joining E) (.separator s :: ts) (.joined E s P) us
  | notJoined {ts : List Token} {E : Expr} (h : ∀ s, ts.head? ≠ some (.separator s)) :
      Reads (.joining E) ts E ts
  | relative {ts us vs : List Token} {S P : Expr} (h : Reads (.whole .step) ts S us)
      (hs : Reads (.steps S) us P vs) : Reads (.whole .relative) ts P vs
  | further {s : Separator} {ts us vs : List Token} {P S Q : Expr}
      (h : Reads (.whole .step) ts S us) (hs : Reads (.steps (.further P s S)) us Q vs) :
      Reads (.steps P) (.separator s :: ts) Q vs
  | noFurther {ts : List Token} {P : Expr} (h : ∀ s, ts.head? ≠ some (.separator s)) :
      Reads (.steps P) ts P ts
  | self {ts : List Token} : Reads (.whole .step) (.dot :: ts) .self ts
  | parent {ts : List Token} : Reads (.whole .step) (.dots :: ts) .parent ts
  | short {ts us : List Token} {S : Expr} (h : Reads (.test .attr) ts S us) :
      Reads (.whole .step) (.at :: ts) S us
  | axis {a : Axis} {ts us : List Token} {S : Expr} (h : Reads (.test a) ts S us) :
      Reads (.whole .step) (.axis a :: .colons :: ts) S us
  | childName {t : NameTest} {ts us : List Token} {S : Expr}
      (h : Reads (.test .child) (.nameTest t :: ts) S us) :
      Reads (.whole .step) (.nameTest t :: ts) S us
  | childType {t : NodeType} {ts us : List Token} {S : Expr}
      (h : Reads (.test .child) (.nodeType t :: ts) S us) :
      Reads (.whole .step) (.nodeType t :: ts) S us
  | name {a : Axis} {t : NameTest} {ts us : List Token} {S : Expr}
      (h : Reads (.predicates a (.name t) []) ts S us) :
      Reads (.test a) (.nameTest t :: ts) S us
  | type {a : Axis} {t : NodeType} {ts us : List Token} {S : Expr}
      (h : Reads (.predicates a (.type t) []) ts S us) :
      Reads (.test a) (.nodeType t :: .leftParen :: .rightParen :: ts) S us
  | instruction {a : Axis} {l : Literal} {ts us : List Token} {S : Expr}
      (h : Reads (.predicates a (.instruction l) []) ts S us) :
      Reads (.test a)
        (.nodeType .processingInstruction :: .leftParen :: .literal l :: .rightParen :: ts) S us
  | predicate {a : Axis} {t : NodeTest} {ps : List Expr} {ts us vs : List Token} {P S : Expr}
      (h : Reads (.whole (.chain .or)) ts P (.rightBracket :: us))
      (hs : Reads (.predicates a t (ps ++ [P])) us S vs) :
      Reads (.predicates a t ps) (.leftBracket :: ts) S vs
  | noPredicate {a : Axis} {t : NodeTest} {ps : List Expr} {ts : List Token}
      (h : ts.head? ≠ some .leftBracket) : Reads (.predicates a t ps) ts (.step a t ps) ts
  | plain {ts us vs : List Token} {E F : Expr} (h : Reads (.whole .primary) ts E us)
      (hs : Reads (.filters E) us F vs) : Reads (.whole .filter) ts F vs
  | filtered {ts us vs : List Token} {E P F : Expr}
      (h : Reads (.whole (.chain .or)) ts P (.rightBracket :: us))
      (hs : Reads (.filters (.filtered E P)) us F vs) :
      Reads (.filters E) (.leftBracket :: ts) F vs
  | notFiltered {ts : List Token} {E : Expr} (h : ts.head? ≠ some .leftBracket) :
      Reads (.filters E) ts E ts
  | reference {x : QName} {ts : List Token} :
      Reads (.whole .primary) (.reference x :: ts) (.reference x) ts
  | literal {l : Literal} {ts : List Token} :
      Reads (.whole .primary) (.literal l :: ts) (.literal l) ts
  | number {n : List Char} {ts : List Token} :
      Reads (.whole .primary) (.number n :: ts) (.number n) ts
  | group {ts us : List Token} {E : Expr}
      (h : Reads (.whole (.chain .or)) ts E (.rightParen :: us)) :
      Reads (.whole .primary) (.leftParen :: ts) (.group E) us
  | call {f : QName} {ts : List Token} :
      Reads (.whole .primary) (.function f :: .leftParen :: .rightParen :: ts) (.call f []) ts
  | callWith {f : QName} {ts us : List Token} {E : Expr} (hs : ts.head? ≠ some .rightParen)
      (h : Reads (.arguments f []) ts E us) :
      Reads (.whole .primary) (.function f :: .leftParen :: ts) E us
  | argument {f : QName} {as : List Expr} {ts us vs : List Token} {A E : Expr}
      (h : Reads (.whole (.chain .or)) ts A (.comma :: us))
      (hs : Reads (.arguments f (as ++ [A])) us E vs) : Reads (.arguments f as) ts E vs
  | lastArgument {f : QName} {as : List Expr} {ts us : List Token} {A : Expr}
      (h : Reads (.whole (.chain .or)) ts A (.rightParen :: us)) :
      Reads (.arguments f as) ts (.call f (as ++ [A])) us

/-- No token starts both a step and a primary expression. -/
theorem not_startsPrimary_of_startsStep {ts : List Token}
    (h : ts.head?.any Token.startsStep = true) (h' : ts.head?.any Token.startsPrimary = true) :
    False := by
  cases ts with
  | nil => cases h
  | cons t ts => cases t <;> simp_all [Token.startsStep, Token.startsPrimary]

/-- **Reading has at most one outcome.** -/
theorem Reads.unique {g : Goal} {ts us vs : List Token} {E F : Expr} (h : Reads g ts E us)
    (h' : Reads g ts F vs) : E = F ∧ us = vs := by
  induction h generalizing F vs with
  | chain _ _ ih ihs =>
      cases h' with
      | chain h hs =>
          obtain ⟨rfl, rfl⟩ := ih h
          exact ihs hs
  -- The next token decides the rule of the other reading too, and its parts have the same outcomes.
  | _ =>
      cases h' <;>
        grind [not_startsPrimary_of_startsStep, Token.startsStep, Token.startsPrimary]

/-! ### What derivations start with -/

/-- The tokens that an expression of a kind may start with. -/
def Symbol.starts : Symbol → Token → Prop
  | .step, t | .relative, t => t.startsStep = true
  | .primary, t | .filter, t => t.startsPrimary = true
  | .location, t => t.startsStep = true ∨ ∃ s, t = .separator s
  | .path, t | .chain .union, t =>
    t.startsStep = true ∨ t.startsPrimary = true ∨ ∃ s, t = .separator s
  | .unary, t | .chain _, t =>
    t = .operator .minus ∨ t.startsStep = true ∨ t.startsPrimary = true ∨ ∃ s, t = .separator s

theorem Symbol.starts_operand {l : Level} {t : Token} (h : l.operand.starts t) :
    (Symbol.chain l).starts t := by
  cases l <;> simp_all [Level.operand, starts]

/-- Every derivation starts with a token that may start its symbol. -/
theorem Derives.exists_head {s : Symbol} {ts : List Token} {E : Expr} (h : Derives s ts E) :
    ∃ t us, ts = t :: us ∧ s.starts t := by
  induction h with
  | operand _ ih =>
      obtain ⟨t, us, rfl, ht⟩ := ih
      exact ⟨t, us, rfl, Symbol.starts_operand ht⟩
  | positive _ ih | location _ ih | filter _ ih | relative _ ih | one _ ih | plain _ ih =>
      obtain ⟨t, us, rfl, ht⟩ := ih
      exact ⟨t, us, rfl, by simp only [Symbol.starts] at ht ⊢; grind⟩
  | operation _ _ ih | joined _ _ ih | further _ _ ih | filtered _ _ ih =>
      obtain ⟨t, us, rfl, ht⟩ := ih
      exact ⟨t, _, rfl, by simp_all [Symbol.starts]⟩
  | @step a t ps =>
      cases a <;> cases t <;> exact ⟨_, _, rfl, rfl⟩
  | negative | root | absolute => exact ⟨_, _, rfl, by simp [Symbol.starts]⟩
  | self | parent | reference | literal | number | group | call => exact ⟨_, _, rfl, rfl⟩

/-! ### Derivations are read -/

/-- How loosely a level binds. -/
def Level.rank : Level → Nat
  | .or => 0
  | .and => 1
  | .equality => 2
  | .relational => 3
  | .additive => 4
  | .multiplicative => 5
  | .union => 7

/-- How tightly a token ties what follows it to what stands before it. -/
def Token.binding : Token → Nat
  | .rightParen | .rightBracket | .comma => 0
  | .operator o => o.level.rank + 1
  | _ => 9

/-- The next token ties no tighter than a bound. -/
def Stops (k : Nat) (rest : List Token) : Prop := ∀ t ∈ rest.head?, t.binding ≤ k

theorem Stops.mono {k m : Nat} {rest : List Token} (h : Stops k rest) (hkm : k ≤ m) :
    Stops m rest := fun t ht => Nat.le_trans (h t ht) hkm

theorem Stops.head_ne {k : Nat} {rest : List Token} (h : Stops k rest) {t : Token}
    (ht : k < t.binding) : rest.head? ≠ some t := by
  intro he
  have := h t he
  omega

theorem Stops.no_separator {rest : List Token} (h : Stops 8 rest) (s : Separator) :
    rest.head? ≠ some (.separator s) := h.head_ne (Nat.lt_succ_self 8)

theorem Stops.no_bracket {rest : List Token} (h : Stops 8 rest) :
    rest.head? ≠ some .leftBracket := h.head_ne (Nat.lt_succ_self 8)

theorem Stops.no_step {rest : List Token} (h : Stops 8 rest) :
    rest.head?.any Token.startsStep = false := by
  cases rest with
  | nil => rfl
  | cons t rest =>
      have ht := h t rfl
      cases t <;> simp_all [Token.binding, Token.startsStep]

theorem Stops.cons {k : Nat} {t : Token} (ht : t.binding ≤ k) (rest : List Token) :
    Stops k (t :: rest) := by
  intro u hu
  cases hu
  exact ht

/-- The tokens of an expression, and then others, are read as the expression and the others.  Where
a reading goes on from the expression, it goes on as if the expression had just been read. -/
def Completes : Symbol → List Token → Expr → Prop
  | .chain l, ts, E => ∀ rest F us, Stops (l.rank + 1) rest → Reads (.operators l E) rest F us →
      Reads (.whole (.chain l)) (ts ++ rest) F us
  | .unary, ts, E => ∀ rest, Stops 6 rest → Reads (.whole .unary) (ts ++ rest) E rest
  | .path, ts, E | .location, ts, E => ∀ rest, Stops 8 rest →
      Reads (.whole .path) (ts ++ rest) E rest
  | .relative, ts, E => ∀ rest F us, rest.head? ≠ some .leftBracket →
      Reads (.steps E) rest F us → Reads (.whole .relative) (ts ++ rest) F us
  | .step, ts, E => ∀ rest, rest.head? ≠ some .leftBracket →
      Reads (.whole .step) (ts ++ rest) E rest
  | .filter, ts, E => ∀ rest F us, Reads (.filters E) rest F us →
      Reads (.whole .filter) (ts ++ rest) F us
  | .primary, ts, E => ∀ rest, Reads (.whole .primary) (ts ++ rest) E rest

/-- An expression of a level is read as a whole before a token that binds looser. -/
theorem Completes.reads_chain {l : Level} {ts rest : List Token} {E : Expr}
    (h : Completes (.chain l) ts E) (hr : Stops l.rank rest) :
    Reads (.whole (.chain l)) (ts ++ rest) E rest := by
  refine h rest E rest (hr.mono (by omega)) (.noOperator ?_)
  rintro o ho rfl
  exact hr.head_ne (t := .operator o) (by simp [Token.binding]) ho

theorem Completes.reads_operand {l : Level} {ts rest : List Token} {E : Expr}
    (h : Completes l.operand ts E) (hr : Stops (l.rank + 1) rest) :
    Reads (.whole l.operand) (ts ++ rest) E rest := by
  cases l with
  | multiplicative => exact h rest hr
  | union => exact h rest hr
  | or | and | equality | relational | additive => exact reads_chain h hr

/-- Expressions between brackets are read as predicates. -/
theorem reads_predicates {a : Axis} {t : NodeTest} {ps : List (List Token × Expr)}
    (h : ∀ p ∈ ps, Completes (.chain .or) p.1 p.2) {rest : List Token}
    (hr : rest.head? ≠ some .leftBracket) (before : List Expr) :
    Reads (.predicates a t before) ((ps.flatMap fun p => inBrackets p.1) ++ rest)
      (.step a t (before ++ ps.map Prod.snd)) rest := by
  induction ps generalizing before with
  | nil => simpa using Reads.noPredicate hr
  | cons p ps ih =>
      obtain ⟨hp, hps⟩ := List.forall_mem_cons.1 h
      have rest_read := ih hps (before ++ [p.2])
      have read := hp.reads_chain (Stops.cons (t := .rightBracket) (Nat.zero_le _)
        ((ps.flatMap fun p => inBrackets p.1) ++ rest))
      simpa [inBrackets] using Reads.predicate read (by simpa using rest_read)

/-- A direction, a node test and expressions between brackets are read as a step. -/
theorem reads_step {a : AxisSpecifier} {t : NodeTest} {ps : List (List Token × Expr)}
    (h : ∀ p ∈ ps, Completes (.chain .or) p.1 p.2) {rest : List Token}
    (hr : rest.head? ≠ some .leftBracket) :
    Reads (.whole .step) ((a.tokens ++ t.tokens ++ ps.flatMap fun p => inBrackets p.1) ++ rest)
      (.step a.axis t (ps.map Prod.snd)) rest := by
  have predicates := reads_predicates h hr (a := a.axis) (t := t) []
  have test : Reads (.test a.axis) (t.tokens ++ ((ps.flatMap fun p => inBrackets p.1) ++ rest))
      (.step a.axis t (ps.map Prod.snd)) rest := by
    cases t with
    | name t => exact .name predicates
    | type t => exact .type predicates
    | instruction l => exact .instruction predicates
  -- How the direction is written decides which token comes first.
  rw [List.append_assoc, List.append_assoc]
  cases a with
  | named a => exact .axis test
  | short => exact .short test
  | omitted =>
      cases t with
      | name t => exact .childName test
      | type t => exact .childType test
      | instruction l => exact .childType test

/-- Expressions between commas are read as arguments. -/
theorem reads_arguments {f : QName} {a : List Token × Expr} {as : List (List Token × Expr)}
    (h : ∀ b ∈ a :: as, Completes (.chain .or) b.1 b.2) (rest : List Token) (before : List Expr) :
    Reads (.arguments f before)
      ([.comma].intercalate ((a :: as).map Prod.fst) ++ .rightParen :: rest)
      (.call f (before ++ (a :: as).map Prod.snd)) rest := by
  induction as generalizing a before with
  | nil =>
      have read := (h a (by simp)).reads_chain (Stops.cons (t := .rightParen) (Nat.zero_le _) rest)
      simpa [List.intercalate] using Reads.lastArgument read
  | cons b bs ih =>
      obtain ⟨ha, has⟩ := List.forall_mem_cons.1 h
      have rest_read := ih has (before ++ [a.2])
      have read := ha.reads_chain (Stops.cons (t := .comma) (Nat.zero_le _)
        ([.comma].intercalate ((b :: bs).map Prod.fst) ++ .rightParen :: rest))
      simpa [List.intercalate] using Reads.argument read (by simpa using rest_read)

/-- **What the grammar derives is read.** -/
theorem Derives.completes {s : Symbol} {ts : List Token} {E : Expr} (h : Derives s ts E) :
    Completes s ts E := by
  induction h with
  | operand _ ih =>
      intro rest F us hr hF
      exact .chain (ih.reads_operand hr) hF
  | operation _ _ ihl ihr =>
      intro rest F us hr hF
      -- The left operand is followed by the operator, which its own level does not end.
      rw [List.append_assoc]
      exact ihl _ _ _ (Stops.cons (Nat.le_refl _) _) (.operator rfl (ihr.reads_operand hr) hF)
  | positive h ih =>
      intro rest hr
      -- A union starts with no minus sign, which would be read as one of the expression.
      obtain ⟨t, us, rfl, ht⟩ := h.exists_head
      refine .positive ?_ (ih.reads_chain (hr.mono (by decide)))
      rintro ⟨⟩
      simp [Symbol.starts, Token.startsStep, Token.startsPrimary] at ht
  | negative _ ih =>
      intro rest hr
      exact .negative (ih rest hr)
  | location _ ih => exact ih
  | filter h ih =>
      intro rest hr
      obtain ⟨t, us, rfl, ht⟩ := h.exists_head
      exact .filter ht (ih _ _ _ (.notFiltered hr.no_bracket)) (.notJoined hr.no_separator)
  | joined h _ ih ihp =>
      intro rest hr
      obtain ⟨t, us, rfl, ht⟩ := h.exists_head
      have path := ihp _ _ _ hr.no_bracket (.noFurther hr.no_separator)
      rw [List.append_assoc]
      exact .filter ht (ih _ _ _ (.notFiltered (by simp))) (.joined path)
  | root =>
      intro rest hr
      exact .root hr.no_step
  | absolute h ih =>
      intro rest hr
      obtain ⟨t, us, rfl, ht⟩ := h.exists_head
      exact .absolute ht (ih _ _ _ hr.no_bracket (.noFurther hr.no_separator))
  | relative h ih =>
      intro rest hr
      obtain ⟨t, us, rfl, ht⟩ := h.exists_head
      exact .location ht (ih _ _ _ hr.no_bracket (.noFurther hr.no_separator))
  | one _ ih =>
      intro rest F us hr hF
      exact .relative (ih rest hr) hF
  | further _ _ ih ihs =>
      intro rest F us hr hF
      rw [List.append_assoc]
      exact ih _ _ _ (by simp) (.further (ihs rest hr) hF)
  | step _ ih =>
      intro rest hr
      exact reads_step ih hr
  | self =>
      intro rest _
      exact .self
  | parent =>
      intro rest _
      exact .parent
  | plain _ ih =>
      intro rest F us hF
      exact .plain (ih rest) hF
  | @filtered ts us E P _ _ ih ihp =>
      intro rest F vs hF
      have read := ihp.reads_chain (Stops.cons (t := .rightBracket) (Nat.zero_le _) rest)
      rw [List.append_assoc]
      exact ih _ _ _ (.filtered (by simpa using read) hF)
  | reference =>
      intro rest
      exact .reference
  | literal =>
      intro rest
      exact .literal
  | number =>
      intro rest
      exact .number
  | group _ ih =>
      intro rest
      have read := ih.reads_chain (Stops.cons (t := .rightParen) (Nat.zero_le _) rest)
      exact .group (by simpa using read)
  | @call f as h ih =>
      intro rest
      cases as with
      | nil => exact .call
      | cons a as =>
          have read := reads_arguments (f := f) ih rest []
          obtain ⟨t, us, ht, hs⟩ := (h a (by simp)).exists_head
          refine .callWith ?_ (by simpa using read)
          have no_paren : t ≠ .rightParen := by
            rintro rfl
            simp [Symbol.starts, Token.startsStep, Token.startsPrimary] at hs
          cases as <;> simpa [List.intercalate, ht] using no_paren

/-- An expression has one tree. -/
theorem Derives.unique {ts : List Token} {E F : Expr} (h : Derives (.chain .or) ts E)
    (h' : Derives (.chain .or) ts F) : E = F := by
  have stop : Stops 0 [] := by
    intro t ht
    cases ht
  exact (h.completes.reads_chain stop).unique (h'.completes.reads_chain stop) |>.1

/-- **A text has at most one tree.** -/
theorem Parses.unique {text : List Char} {E F : Expr} (h : Parses text E) (h' : Parses text F) :
    E = F := by
  obtain ⟨ts, lexes, derives⟩ := h
  obtain ⟨us, lexes', derives'⟩ := h'
  obtain rfl := lexes.unique lexes'
  exact derives.unique derives'

end WebDriverClient.Locator.XPath
