/-
**Spelled expressions.**

A text spells an expression as a symbol when it has the tokens of the expression wherever an operand
is expected, with any text behind it that does not go on with a name.  Texts are put together here
as the productions put tokens together, so that no later proof speaks of tokens.

Main definitions:

* `XPath.endsName` — a text does not go on with the name before it;
* `XPath.Spells` — a text spells an expression as a symbol;
* `XPath.Expr.join` — expressions with one operator between them.

Main results:

* `XPath.Spells.parses` — a text that spells an expression has its tree;
* `XPath.Spells.join`, `XPath.Spells.call`, `XPath.Spells.group` — texts put together.
-/

import WebDriverClient.Proofs.Locator.XPath.Grammar

set_option autoImplicit false

namespace WebDriverClient.Locator.XPath

/-! ### Reading names -/

theorem startsNcName_of_isNameStart {c : Char} (h : isNameStart c = true) :
    startsNcName c = true := by
  simp_all [startsNcName, isNameStart]

theorem isNcNameChar_of_isNameChar {c : Char} (h : isNameChar c = true) :
    isNcNameChar c = true := by
  rw [isNameChar, Bool.or_eq_true, Bool.or_eq_true] at h
  rcases h with (h | h) | h
  · simp [isNcNameChar, startsNcName_of_isNameStart h]
  · simp [isNcNameChar, h]
  · simp_all [isNcNameChar]

theorem isDigit_of_isNameStart {c : Char} (h : isNameStart c = true) : c.isDigit = false := by
  cases hd : c.isDigit with
  | false => rfl
  | true =>
      obtain ⟨-, last⟩ := (isDigit_iff c).1 hd
      rcases (isNameStart_iff c).1 h with ⟨first, -⟩ | ⟨first, -⟩ | rfl
      · exact absurd (Char.le_trans first last) (by decide)
      · exact absurd (Char.le_trans first last) (by decide)
      · cases hd

theorem isSpace_of_isNameStart {c : Char} (h : isNameStart c = true) : isSpace c = false := by
  cases hs : isSpace c with
  | false => rfl
  | true =>
      simp only [isSpace, Bool.or_eq_true, decide_eq_true_eq] at hs
      rcases hs with ((rfl | rfl) | rfl) | rfl <;> exact absurd h (by decide)

/-- Nothing but a name starts with the first character of a name. -/
theorem readToken_of_isNameStart {c : Char} (h : isNameStart c = true) (operator : Bool)
    (text : List Char) : readToken operator (c :: text) = readName operator (c :: text) := by
  unfold readToken
  split <;> rename_i heq <;> cases heq <;> first
    | exact absurd h (by decide)
    | simp [isDigit_of_isNameStart h, startsNcName_of_isNameStart h]

theorem readToken_of_isName {name : List Char} (h : isName name = true) (operator : Bool)
    (rest : List Char) :
    readToken operator (name ++ rest) = readName operator (name ++ rest) ∧
      (name ++ rest).dropWhile isSpace = name ++ rest := by
  cases name with
  | nil => cases h
  | cons c name =>
      rw [isName, Bool.and_eq_true] at h
      exact ⟨readToken_of_isNameStart h.1 operator _,
        List.dropWhile_cons_of_neg (by simp [isSpace_of_isNameStart h.1])⟩

theorem isNcNameChar_of_isName {name : List Char} (h : isName name = true) :
    ∀ c ∈ name, isNcNameChar c = true := by
  cases name with
  | nil => cases h
  | cons c name =>
      rw [isName, Bool.and_eq_true, List.all_eq_true] at h
      intro d hd
      rcases List.mem_cons.1 hd with rfl | hd
      · simp [isNcNameChar, startsNcName_of_isNameStart h.1]
      · exact isNcNameChar_of_isNameChar (h.2 d hd)

/-- The text does not go on with the name before it. -/
def stopsName (rest : List Char) : Bool := rest.head?.all fun c => !isNcNameChar c && c ≠ ':'

/-- Nor does it show that the name is a function, a node type or an axis. -/
def endsName (rest : List Char) : Bool :=
  stopsName rest && (rest.dropWhile isSpace).head?.all fun c => c ≠ '(' && c ≠ ':'

theorem span_name {name rest : List Char} (h : isName name = true) (hr : stopsName rest = true) :
    (name ++ rest).takeWhile isNcNameChar = name ∧
      (name ++ rest).dropWhile isNcNameChar = rest := by
  have chars := isNcNameChar_of_isName h
  rw [List.takeWhile_append_of_pos chars, List.dropWhile_append_of_pos chars]
  cases rest with
  | nil => simp
  | cons c rest => simp_all [stopsName]

theorem readQName_name {name rest : List Char} (h : isName name = true)
    (hr : stopsName rest = true) : readQName (name ++ rest) = (⟨none, name⟩, rest) := by
  unfold readQName
  rw [(span_name h hr).1, (span_name h hr).2]
  split
  next => simp [stopsName] at hr
  next => rfl

/-- A name with nothing behind it that makes it anything else is a name test. -/
theorem readToken_name {name rest : List Char} (h : isName name = true)
    (hr : endsName rest = true) :
    readToken false (name ++ rest) = some (.nameTest (.named ⟨none, name⟩), rest) := by
  rw [endsName, Bool.and_eq_true] at hr
  rw [(readToken_of_isName h false rest).1, readName, if_neg (by decide), readOperandName,
    readQName_name h hr.1]
  split
  next heq =>
    cases heq
    simp [stopsName] at hr
  next heq =>
    cases heq
    split
    next hd => simp [hd] at hr
    next hd => simp [hd] at hr
    next => rfl

/-- The token of a name before an opening parenthesis. -/
def Token.ofFunction (name : List Char) : Token :=
  (NodeType.ofName? name).elim (.function ⟨none, name⟩) .nodeType

/-- A name before an opening parenthesis is a node type or a function. -/
theorem readToken_function {name rest : List Char} (h : isName name = true) :
    readToken false (name ++ '(' :: rest) = some (.ofFunction name, '(' :: rest) := by
  rw [(readToken_of_isName h false _).1, readName, if_neg (by decide), readOperandName,
    readQName_name h (by rfl)]
  have paren : ('(' :: rest).dropWhile isSpace = '(' :: rest := rfl
  rw [Token.ofFunction]
  cases hn : NodeType.ofName? name with
  | none => simp [hn, paren]
  | some t => simp [hn, paren]

/-! ### Texts that spell expressions -/

/-- A text spells an expression as a symbol: it has the tokens of the expression wherever an operand
is expected, with any text behind it that an operator may start. -/
def Spells (s : Symbol) (text : List Char) (E : Expr) : Prop :=
  ∃ ts, Derives s ts E ∧ ∀ rest us, endsName rest = true → Lexes true rest us →
    Lexes false (text ++ rest) (ts ++ us)

theorem Spells.parses {text : List Char} {E : Expr} (h : Spells (.chain .or) text E) :
    Parses text E := by
  obtain ⟨ts, derives, lexes⟩ := h
  exact ⟨ts, by simpa using lexes [] [] rfl (.nil rfl), derives⟩

theorem Spells.of_derives {s t : Symbol} {text : List Char} {E : Expr} (h : Spells s text E)
    (hst : ∀ ts, Derives s ts E → Derives t ts E) : Spells t text E := by
  obtain ⟨ts, derives, lexes⟩ := h
  exact ⟨ts, hst ts derives, lexes⟩

theorem Lexes.skip {operator : Bool} {gap text : List Char} {ts : List Token}
    (hg : gap.all isSpace = true) (h : Lexes operator text ts) :
    Lexes operator (gap ++ text) ts := by
  have skip : (gap ++ text).dropWhile isSpace = text.dropWhile isSpace :=
    List.dropWhile_append_of_pos (by simpa using hg)
  cases h with
  | nil h => exact .nil (by rw [skip, h])
  | cons h hs => exact .cons (by rw [skip, h]) hs

theorem Lexes.skip_space {operator : Bool} {text : List Char} {ts : List Token}
    (h : Lexes operator text ts) : Lexes operator (' ' :: text) ts := by
  have space : [' '].all isSpace = true := rfl
  exact h.skip space

/-! ### Operators -/

/-- A text spells an operator: it has its token after any operand. -/
def SpellsOperator (text : List Char) (o : BinaryOperator) : Prop :=
  ∀ rest, endsName (text ++ rest) = true ∧
    ∀ us, Lexes false rest us → Lexes true (text ++ rest) (.operator o :: us)

theorem spellsOperator_equal : SpellsOperator ['='] .equal :=
  fun _ => ⟨rfl, fun _ h => .cons rfl h⟩

theorem spellsOperator_unequal : SpellsOperator ['!', '='] .unequal :=
  fun _ => ⟨rfl, fun _ h => .cons rfl h⟩

theorem spellsOperator_and : SpellsOperator " and ".toList .and :=
  fun _ => ⟨rfl, fun _ h => .cons rfl h.skip_space⟩

theorem spellsOperator_or : SpellsOperator " or ".toList .or :=
  fun _ => ⟨rfl, fun _ h => .cons rfl h.skip_space⟩

theorem spellsOperator_union : SpellsOperator " | ".toList .union :=
  fun _ => ⟨rfl, fun _ h => .cons rfl h.skip_space⟩

/-- Two operands with an operator between them. -/
theorem Spells.binary {o : BinaryOperator} {sign text text' : List Char} {L R : Expr}
    (hs : SpellsOperator sign o) (hl : Spells (.chain o.level) text L)
    (hr : Spells o.level.operand text' R) :
    Spells (.chain o.level) (text ++ sign ++ text') (.binary o L R) := by
  obtain ⟨ts, derives, lexes⟩ := hl
  obtain ⟨us, derives', lexes'⟩ := hr
  refine ⟨ts ++ .operator o :: us, .operation derives derives', ?_⟩
  intro rest vs hrest h
  have right := lexes' rest vs hrest h
  have both := (hs (text' ++ rest)).2 _ right
  simpa using lexes _ _ (hs (text' ++ rest)).1 both

/-- Expressions with one operator between them, which groups to the left.  No expressions, which
no selector has, stand for the document. -/
def Expr.join (o : BinaryOperator) : List Expr → Expr
  | [] => .root
  | E :: Es => Es.foldl (.binary o) E

/-- Any number of operands with an operator between them. -/
theorem Spells.join {o : BinaryOperator} {sign : List Char} (hs : SpellsOperator sign o)
    {ps : List (List Char × Expr)} (hps : ps ≠ [])
    (h : ∀ p ∈ ps, Spells o.level.operand p.1 p.2) :
    Spells (.chain o.level) (sign.intercalate (ps.map Prod.fst))
      (Expr.join o (ps.map Prod.snd)) := by
  -- The operands that have been put together so far are one left operand of the others.
  have grow : ∀ (ps : List (List Char × Expr)) (text : List Char) (L : Expr),
      Spells (.chain o.level) text L → (∀ p ∈ ps, Spells o.level.operand p.1 p.2) →
        Spells (.chain o.level) (sign.intercalate (text :: ps.map Prod.fst))
          ((ps.map Prod.snd).foldl (.binary o) L) := by
    intro ps
    induction ps with
    | nil =>
        intro text L hL _
        simpa [List.intercalate] using hL
    | cons p ps ih =>
        intro text L hL h
        obtain ⟨hp, hps⟩ := List.forall_mem_cons.1 h
        have grown := ih _ _ (Spells.binary hs hL hp) hps
        cases ps <;> simpa [List.intercalate] using grown
  cases ps with
  | nil => exact absurd rfl hps
  | cons p ps =>
      obtain ⟨hp, hps⟩ := List.forall_mem_cons.1 h
      exact grow ps p.1 p.2 (hp.of_derives fun _ => .operand) hps

/-! ### Operands -/

/-- A union is an expression of every level. -/
theorem Derives.chain_of_union {ts : List Token} {E : Expr} (union : Derives (.chain .union) ts E)
    (l : Level) : Derives (.chain l) ts E := by
  have multiplicative : Derives (.chain .multiplicative) ts E := .operand (.positive union)
  have additive : Derives (.chain .additive) ts E := .operand multiplicative
  have relational : Derives (.chain .relational) ts E := .operand additive
  have equality : Derives (.chain .equality) ts E := .operand relational
  have conj : Derives (.chain .and) ts E := .operand equality
  cases l with
  | or => exact .operand conj
  | and => exact conj
  | equality => exact equality
  | relational => exact relational
  | additive => exact additive
  | multiplicative => exact multiplicative
  | union => exact union

theorem Spells.chain_of_union {text : List Char} {E : Expr} (h : Spells (.chain .union) text E)
    (l : Level) : Spells (.chain l) text E := h.of_derives fun _ hd => hd.chain_of_union l

theorem Spells.operand {l : Level} {text : List Char} {E : Expr} (h : Spells l.operand text E) :
    Spells (.chain l) text E := h.of_derives fun _ => .operand

theorem Spells.chain_of_path {text : List Char} {E : Expr} (h : Spells .path text E) (l : Level) :
    Spells (.chain l) text E := (Spells.operand (l := .union) h).chain_of_union l

theorem Spells.path_of_primary {text : List Char} {E : Expr} (h : Spells .primary text E) :
    Spells .path text E := h.of_derives fun _ hd => .filter (.plain hd)

theorem Spells.path_of_step {text : List Char} {E : Expr} (h : Spells .step text E) :
    Spells .path text E := h.of_derives fun _ hd => .location (.relative (.one hd))

/-- A string is read as it is written, if its quote does not stand inside it. -/
theorem Spells.literal {l : Literal} (hq : l.quote = '"' ∨ l.quote = '\'')
    (hi : l.quote ∉ l.inner) : Spells .primary l.render (.literal l) := by
  refine ⟨[.literal l], .literal, ?_⟩
  intro rest us _ h
  have inside : ∀ c ∈ l.inner, decide (c ≠ l.quote) = true := by
    intro c hc
    rw [decide_eq_true_eq]
    rintro rfl
    exact hi hc
  have read : readLiteral l.quote (l.inner ++ [l.quote] ++ rest) = some (.literal l, rest) := by
    simp only [readLiteral, List.append_assoc, List.takeWhile_append_of_pos inside,
      List.dropWhile_append_of_pos inside]
    simp
  refine .cons ?_ h
  obtain ⟨q, inner⟩ := l
  rcases hq with rfl | rfl
  · exact read
  · exact read

/-- An expression in parentheses. -/
theorem Spells.group {text : List Char} {E : Expr} (h : Spells (.chain .or) text E) :
    Spells .primary ('(' :: text ++ [')']) (.group E) := by
  obtain ⟨ts, derives, lexes⟩ := h
  refine ⟨.leftParen :: ts ++ [.rightParen], .group derives, ?_⟩
  intro rest us _ h
  have inner := lexes (')' :: rest) (.rightParen :: us) rfl (.cons rfl h)
  have paren : Lexes false ('(' :: (text ++ ')' :: rest)) _ := .cons rfl inner
  simpa using paren

theorem derives_step (a : AxisSpecifier) (t : NodeTest) :
    Derives .step (a.tokens ++ t.tokens) (.step a.axis t []) := by
  have no_predicates : ∀ p ∈ ([] : List (List Token × Expr)), Derives (.chain .or) p.1 p.2 := by
    simp
  simpa using Derives.step (a := a) (t := t) no_predicates

theorem derives_filtered_step (a : AxisSpecifier) (t : NodeTest) {ts : List Token} {P : Expr}
    (h : Derives (.chain .or) ts P) :
    Derives .step (a.tokens ++ t.tokens ++ inBrackets ts) (.step a.axis t [P]) := by
  have predicate : ∀ p ∈ [(ts, P)], Derives (.chain .or) p.1 p.2 := by simpa using h
  simpa using Derives.step (a := a) (t := t) predicate

/-- Arguments with commas between them, up to the closing parenthesis. -/
theorem exists_arguments {gap : List Char} (hg : gap.all isSpace = true)
    {ps : List (List Char × Expr)} (h : ∀ p ∈ ps, Spells (.chain .or) p.1 p.2) :
    ∃ as : List (List Token × Expr), as.map Prod.snd = ps.map Prod.snd ∧
      (∀ a ∈ as, Derives (.chain .or) a.1 a.2) ∧
      ∀ rest us, Lexes true rest us →
        Lexes false ((',' :: gap).intercalate (ps.map Prod.fst) ++ ')' :: rest)
          ([.comma].intercalate (as.map Prod.fst) ++ .rightParen :: us) := by
  induction ps with
  | nil => exact ⟨[], rfl, by simp, fun rest us hr => .cons rfl hr⟩
  | cons p ps ih =>
      obtain ⟨⟨ts, derives, lexes⟩, hps⟩ := List.forall_mem_cons.1 h
      obtain ⟨as, trees, all, lexes'⟩ := ih hps
      refine ⟨(ts, p.2) :: as, by simp [trees], List.forall_mem_cons.2 ⟨derives, all⟩, ?_⟩
      intro rest us hr
      cases ps with
      | nil =>
          obtain rfl : as = [] := by simpa using trees
          simpa [List.intercalate] using lexes (')' :: rest) (.rightParen :: us) rfl (.cons rfl hr)
      | cons q ps =>
          obtain ⟨a, as, rfl⟩ : ∃ a bs, as = a :: bs := by
            cases as with
            | nil => cases trees
            | cons a as => exact ⟨a, as, rfl⟩
          have others := Lexes.skip hg (lexes' rest us hr)
          have all := lexes (',' :: (gap ++ ((',' :: gap).intercalate ((q :: ps).map Prod.fst) ++
            ')' :: rest))) _ rfl (.cons (t := .comma) rfl others)
          simpa [List.intercalate] using all

/-- A name before an opening parenthesis and what follows. -/
theorem lexes_function {name rest : List Char} {us : List Token} (hn : isName name = true)
    (h : Lexes true ('(' :: rest) us) :
    Lexes false (name ++ '(' :: rest) (.ofFunction name :: us) := by
  have ends : (Token.ofFunction name).endsOperand = true := by
    rw [Token.ofFunction]
    cases NodeType.ofName? name <;> rfl
  have read := @readToken_function name rest hn
  rw [← (readToken_of_isName hn false _).2] at read
  exact .cons read (by rwa [ends])

/-- A function with its arguments. -/
theorem Spells.call {name gap : List Char} (hn : isName name = true)
    (hf : NodeType.ofName? name = none) (hg : gap.all isSpace = true)
    {ps : List (List Char × Expr)} (h : ∀ p ∈ ps, Spells (.chain .or) p.1 p.2) :
    Spells .primary (name ++ '(' :: (',' :: gap).intercalate (ps.map Prod.fst) ++ [')'])
      (.call ⟨none, name⟩ (ps.map Prod.snd)) := by
  obtain ⟨as, trees, all, lexes⟩ := exists_arguments hg h
  rw [← trees]
  refine ⟨_, .call all, ?_⟩
  intro rest us _ hr
  have paren : Lexes true ('(' :: ((',' :: gap).intercalate (ps.map Prod.fst) ++ ')' :: rest)) _ :=
    .cons rfl (lexes rest us hr)
  simpa [Token.ofFunction, hf] using lexes_function hn paren

/-- A node type. -/
theorem Spells.nodeType {name : List Char} {t : NodeType} (hn : isName name = true)
    (ht : NodeType.ofName? name = some t) :
    Spells .step (name ++ ['(', ')']) (.step .child (.type t) []) := by
  refine ⟨_, derives_step .omitted (.type t), ?_⟩
  intro rest us _ hr
  have paren : Lexes true ('(' :: ')' :: rest) (.leftParen :: .rightParen :: us) :=
    .cons rfl (.cons rfl hr)
  simpa [Token.ofFunction, ht, AxisSpecifier.tokens, NodeTest.tokens] using
    lexes_function hn paren

/-! ### Steps and paths -/

/-- The names that an optional tag asks for. -/
def NameTest.ofTag : Option Name → NameTest
  | none => .any
  | some t => .named ⟨none, t.chars⟩

theorem lexes_name {name rest : List Char} {us : List Token} (hn : isName name = true)
    (hrest : endsName rest = true) (hr : Lexes true rest us) :
    Lexes false (name ++ rest) (.nameTest (.named ⟨none, name⟩) :: us) := by
  have read := readToken_name hn hrest
  rw [← (readToken_of_isName hn false _).2] at read
  exact .cons read hr

theorem lexes_tag (tag : Option Name) {rest : List Char} {us : List Token}
    (hrest : endsName rest = true) (hr : Lexes true rest us) :
    Lexes false (tag.elim ['*'] (·.chars) ++ rest) (.nameTest (.ofTag tag) :: us) := by
  cases tag with
  | none => exact .cons rfl hr
  | some t => exact lexes_name t.valid hrest hr

/-- An attribute. -/
theorem Spells.attribute (name : Name) :
    Spells .step ('@' :: name.chars) (.step .attr (.name (.named ⟨none, name.chars⟩)) []) := by
  refine ⟨_, derives_step .short (.name _), ?_⟩
  intro rest us hrest hr
  exact .cons (t := .at) rfl (lexes_name name.valid hrest hr)

/-- The children with a tag. -/
theorem Spells.child (tag : Option Name) :
    Spells .step (tag.elim ['*'] (·.chars)) (.step .child (.name (.ofTag tag)) []) :=
  ⟨_, derives_step .omitted (.name _), fun _ _ hrest hr => lexes_tag tag hrest hr⟩

/-- The children with a tag that meet a predicate. -/
theorem Spells.child_filtered (tag : Option Name) {text : List Char} {P : Expr}
    (h : Spells (.chain .or) text P) :
    Spells .step (tag.elim ['*'] (·.chars) ++ '[' :: text ++ [']'])
      (.step .child (.name (.ofTag tag)) [P]) := by
  obtain ⟨ts, derives, lexes⟩ := h
  refine ⟨_, derives_filtered_step .omitted (.name (.ofTag tag)) derives, ?_⟩
  intro rest us _ hr
  have predicate := lexes (']' :: rest) (.rightBracket :: us) rfl (.cons rfl hr)
  have bracket : Lexes true ('[' :: (text ++ ']' :: rest)) _ := .cons rfl predicate
  simpa [AxisSpecifier.tokens, NodeTest.tokens, inBrackets] using lexes_tag tag rfl bracket

/-- Any number of steps down from the document, and one more step. -/
theorem Spells.anywhere {text : List Char} {S : Expr} (h : Spells .step text S) :
    Spells .path ('/' :: '/' :: text) (.absolute .slashes S) := by
  obtain ⟨ts, derives, lexes⟩ := h
  refine ⟨_, .location (.absolute (.one derives)), ?_⟩
  intro rest us hrest hr
  exact .cons (t := .separator .slashes) rfl (lexes rest us hrest hr)

/-- Any number of steps down from the context, and one more step. -/
theorem Spells.below {text : List Char} {S : Expr} (h : Spells .step text S) :
    Spells .path ('.' :: '/' :: '/' :: text) (.further .self .slashes S) := by
  obtain ⟨ts, derives, lexes⟩ := h
  refine ⟨_, .location (.relative (.further (.one .self) derives)), ?_⟩
  intro rest us hrest hr
  have slashes : Lexes true ('/' :: '/' :: (text ++ rest)) (.separator .slashes :: (ts ++ us)) :=
    .cons rfl (lexes rest us hrest hr)
  exact .cons (t := .dot) rfl slashes

end WebDriverClient.Locator.XPath
