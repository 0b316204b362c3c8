/-
**Reading CSS selectors.**

The syntax of CSS, for the selectors that locators write: a list of compound selectors with commas
between them, each an optional tag and tests of attributes with a string.  Selectors of any other
kind are not read at all.  Line breaks have been made alike before, as the syntax asks, so the line
feed is the only one here.

Main definitions:

* `Css.Token`, `Css.Lexes` — the tokens of a text;
* `Css.readString` — the value of a string, with its escapes;
* `Css.ReadCompound`, `Css.Reads` — the compound selectors of a text.

Main results:

* `Css.Reads.unique` — a text is read in at most one way;
* `Css.readString_quote` — a quoted value is read as the value;
* `Css.reads_render` — **written compound selectors are read as they were**.
-/

import WebDriverClient.Locator.Css

set_option autoImplicit false

namespace WebDriverClient.Locator.Css

/-! ### Strings -/

/-- White space. -/
def isSpace (c : Char) : Bool := c = ' ' || c = '\t' || c = '\n'

/-- The value of a hexadecimal digit. -/
def hexValue? (c : Char) : Option Nat :=
  if c.isDigit then some (c.toNat - '0'.toNat)
  else if 'a' ≤ c ∧ c ≤ 'f' then some (c.toNat - 'a'.toNat + 10)
  else if 'A' ≤ c ∧ c ≤ 'F' then some (c.toNat - 'A'.toNat + 10)
  else none

/-- The character with a code point; the replacement character stands for code points without
one. -/
def charOfCode (n : Nat) : Char := if n ≠ 0 ∧ n.isValidChar then Char.ofNat n else '\uFFFD'

/-- The code point of an escape, and what follows it: up to `left` digits and one white space. -/
def readHex (left code : Nat) : List Char → Nat × List Char
  | [] => (code, [])
  | c :: rest =>
    match left, hexValue? c with
    | left + 1, some d => readHex left (16 * code + d) rest
    | _, _ => (code, if isSpace c then rest else c :: rest)

theorem readHex_length (left code : Nat) (text : List Char) :
    (readHex left code text).2.length ≤ text.length := by
  induction text generalizing left code with
  | nil => simp [readHex]
  | cons c rest ih =>
      unfold readHex
      split
      · exact Nat.le_succ_of_le (ih _ _)
      · dsimp only
        split <;> simp

/-- The value of a string after its first quote, and what follows its last.  A line break in it and
a text that ends before the string are faults. -/
def readString (quote : Char) : List Char → Option (List Char × List Char)
  | [] => none
  | c :: rest =>
    if c = quote then some ([], rest)
    else if c = '\n' then none
    else if c = '\\' then
      match rest with
      | [] => none
      | d :: more =>
        if d = '\n' then readString quote more
        else if (hexValue? d).isSome then
          (readString quote (readHex 6 0 (d :: more)).2).map fun r =>
            (charOfCode (readHex 6 0 (d :: more)).1 :: r.1, r.2)
        else (readString quote more).map fun r => (d :: r.1, r.2)
    else (readString quote rest).map fun r => (c :: r.1, r.2)
termination_by text => text.length
decreasing_by
  · exact Nat.lt_succ_of_lt (Nat.lt_succ_self _)
  · exact Nat.lt_succ_of_le (readHex_length 6 0 (d :: more))
  · exact Nat.lt_succ_of_lt (Nat.lt_succ_self _)
  · exact Nat.lt_succ_self _

/-! ### Tokens -/

/-- The tokens. -/
inductive Token where
  | ident (name : List Char)
  | string (value : List Char)
  | comma | leftBracket | rightBracket | space
  | delim (c : Char)
deriving DecidableEq

/-- A character that may start an identifier. -/
def startsIdent (c : Char) : Bool := c.isAlpha || c = '_' || 0x80 ≤ c.toNat

/-- A character of an identifier after the first. -/
def isIdentChar (c : Char) : Bool := startsIdent c || c.isDigit || c = '-'

/-- The first token of a text, and what follows it. -/
def readToken : List Char → Option (Token × List Char)
  | [] => none
  | ',' :: rest => some (.comma, rest)
  | '[' :: rest => some (.leftBracket, rest)
  | ']' :: rest => some (.rightBracket, rest)
  | '"' :: rest => (readString '"' rest).map fun r => (.string r.1, r.2)
  | '\'' :: rest => (readString '\'' rest).map fun r => (.string r.1, r.2)
  | c :: rest =>
    if isSpace c then some (.space, rest.dropWhile isSpace)
    else if startsIdent c then
      some (.ident ((c :: rest).takeWhile isIdentChar), (c :: rest).dropWhile isIdentChar)
    else some (.delim c, rest)

/-- A text has a list of tokens. -/
inductive Lexes : List Char → List Token → Prop
  | nil : Lexes [] []
  | cons {text rest : List Char} {t : Token} {ts : List Token} (h : readToken text = some (t, rest))
      (hs : Lexes rest ts) : Lexes text (t :: ts)

theorem Lexes.unique {text : List Char} {ts us : List Token} (h : Lexes text ts)
    (h' : Lexes text us) : ts = us := by
  induction h generalizing us with
  | nil =>
      cases h' with
      | nil => rfl
      | cons hc => cases hc
  | cons hc _ ih =>
      cases h' with
      | nil => cases hc
      | cons hc' hs' =>
          rw [hc] at hc'
          cases hc'
          rw [ih hs']

/-! ### Selectors -/

/-- A test of an attribute, as it is read. -/
structure ReadAttribute where
  name : List Char
  relation : Relation
  value : List Char

/-- A compound selector, as it is read. -/
structure ReadCompound where
  tag : Option (List Char)
  attributes : List ReadAttribute

/-- Tests of attributes, and nothing else. -/
def readAttributes : List Token → Option (List ReadAttribute)
  | [] => some []
  | .leftBracket :: .ident name :: .delim '=' :: .string value :: .rightBracket :: rest =>
    (readAttributes rest).map (⟨name, .equals, value⟩ :: ·)
  | .leftBracket :: .ident name :: .delim '*' :: .delim '=' :: .string value :: .rightBracket
      :: rest => (readAttributes rest).map (⟨name, .contains, value⟩ :: ·)
  | .leftBracket :: .ident name :: .delim '^' :: .delim '=' :: .string value :: .rightBracket
      :: rest => (readAttributes rest).map (⟨name, .startsWith, value⟩ :: ·)
  | .leftBracket :: .ident name :: .delim '$' :: .delim '=' :: .string value :: .rightBracket
      :: rest => (readAttributes rest).map (⟨name, .endsWith, value⟩ :: ·)
  | _ => none

/-- An optional tag and tests of attributes, of which there is one thing at least. -/
def readCompound : List Token → Option ReadCompound
  | [] => none
  | .ident tag :: rest => (readAttributes rest).map (⟨some tag, ·⟩)
  | ts => (readAttributes ts).map (⟨none, ·⟩)

/-- The tokens without white space around them. -/
def trim (ts : List Token) : List Token :=
  ((ts.dropWhile (· = .space)).reverse.dropWhile (· = .space)).reverse

/-- A text is read as a list of compound selectors. -/
def Reads (text : List Char) (cs : List ReadCompound) : Prop :=
  ∃ ts, Lexes text ts ∧ (ts.splitOn .comma).mapM (readCompound ∘ trim) = some cs

/-- A text is read in at most one way. -/
theorem Reads.unique {text : List Char} {cs ds : List ReadCompound} (h : Reads text cs)
    (h' : Reads text ds) : cs = ds := by
  obtain ⟨ts, lexes, read⟩ := h
  obtain ⟨us, lexes', read'⟩ := h'
  obtain rfl := lexes.unique lexes'
  exact Option.some.inj (read.symm.trans read')

/-! ### Written strings and names -/

theorem readString_plain {q c : Char} (hq : c ≠ q) (hn : c ≠ '\n') (he : c ≠ '\\')
    (rest : List Char) :
    readString q (c :: rest) = (readString q rest).map fun r => (c :: r.1, r.2) := by
  rw [readString.eq_def]
  simp [hq, hn, he]

theorem readString_escape {c : Char} (hn : c ≠ '\n') (hx : hexValue? c = none)
    (rest : List Char) :
    readString '"' ('\\' :: c :: rest) = (readString '"' rest).map fun r => (c :: r.1, r.2) := by
  rw [readString.eq_def]
  simp [hn, hx]

theorem readString_hex {c d : Char} {rest after : List Char} {code : Nat}
    (hx : (hexValue? c).isSome = true) (hd : readHex 6 0 (c :: rest) = (code, after))
    (hc : charOfCode code = d) :
    readString '"' ('\\' :: c :: rest) = (readString '"' after).map fun r => (d :: r.1, r.2) := by
  have hn : c ≠ '\n' := by
    rintro rfl
    exact absurd hx (by decide)
  rw [readString.eq_def]
  simp [hn, hx, hd, hc]

/-- Characters written inside a string are read as they were, whatever follows them. -/
theorem readString_escaped (value rest : List Char) :
    readString '"' (value.flatMap escapeChar ++ rest) =
      (readString '"' rest).map fun r => (value ++ r.1, r.2) := by
  induction value with
  | nil => simp
  | cons c value ih =>
      have more : (readString '"' rest).map (fun r => (c :: value ++ r.1, r.2)) =
          (readString '"' (value.flatMap escapeChar ++ rest)).map fun r => (c :: r.1, r.2) := by
        rw [ih, Option.map_map]
        rfl
      rw [List.flatMap_cons, List.append_assoc, more]
      by_cases quoted : c = '"' ∨ c = '\\'
      · have form : escapeChar c = ['\\', c] := if_pos quoted
        have escape : c ≠ '\n' ∧ hexValue? c = none := by
          rcases quoted with rfl | rfl <;> decide
        simp only [form, List.cons_append, List.nil_append]
        exact readString_escape escape.1 escape.2 _
      · by_cases newline : c = '\n'
        · subst newline
          -- The space after the digit belongs to the escape, whatever follows it.
          have hex : readHex 6 0 ('a' :: ' ' :: (value.flatMap escapeChar ++ rest)) =
              (10, value.flatMap escapeChar ++ rest) := rfl
          change readString '"' ('\\' :: 'a' :: ' ' :: (value.flatMap escapeChar ++ rest)) = _
          exact readString_hex rfl hex (by decide)
        · have form : escapeChar c = [c] := by simp [escapeChar, quoted, newline]
          rw [not_or] at quoted
          rw [form, List.singleton_append, readString_plain quoted.1 newline quoted.2]

/-- **A quoted value is read as the value.** -/
theorem readString_quote (value rest : List Char) :
    readString '"' (value.flatMap escapeChar ++ '"' :: rest) = some (value, rest) := by
  rw [readString_escaped, readString.eq_def]
  simp

theorem startsIdent_of_isNameStart {c : Char} (h : isNameStart c = true) : startsIdent c = true := by
  simp_all [startsIdent, isNameStart]

theorem isIdentChar_of_isNameChar {c : Char} (h : isNameChar c = true) : isIdentChar c = true := by
  rw [isNameChar, Bool.or_eq_true, Bool.or_eq_true] at h
  rcases h with (h | h) | h
  · simp [isIdentChar, startsIdent_of_isNameStart h]
  · simp [isIdentChar, h]
  · simp_all [isIdentChar]

theorem isSpace_of_isNameStart {c : Char} (h : isNameStart c = true) : isSpace c = false := by
  cases hs : isSpace c with
  | false => rfl
  | true =>
      simp only [isSpace, Bool.or_eq_true, decide_eq_true_eq] at hs
      rcases hs with (rfl | rfl) | rfl <;> exact absurd h (by decide)

/-- The text does not go on with the name before it. -/
def stopsIdent (rest : List Char) : Bool := rest.head?.all fun c => !isIdentChar c

/-- A name is read as an identifier. -/
theorem readToken_name (name : Name) {rest : List Char} (hr : stopsIdent rest = true) :
    readToken (name.chars ++ rest) = some (.ident name.chars, rest) := by
  obtain ⟨chars, valid⟩ := name
  cases chars with
  | nil => cases valid
  | cons c chars =>
      rw [isName, Bool.and_eq_true, List.all_eq_true] at valid
      have start := startsIdent_of_isNameStart valid.1
      have inside : ∀ d ∈ c :: chars, isIdentChar d = true := by
        refine List.forall_mem_cons.2 ⟨by simp [isIdentChar, start], fun d hd => ?_⟩
        exact isIdentChar_of_isNameChar (valid.2 d hd)
      have no_space := isSpace_of_isNameStart valid.1
      have taken : (c :: (chars ++ rest)).takeWhile isIdentChar = c :: chars := by
        rw [← List.cons_append, List.takeWhile_append_of_pos inside]
        cases rest <;> simp_all [stopsIdent]
      have dropped : (c :: (chars ++ rest)).dropWhile isIdentChar = rest := by
        rw [← List.cons_append, List.dropWhile_append_of_pos inside]
        cases rest <;> simp_all [stopsIdent]
      change readToken (c :: (chars ++ rest)) = _
      unfold readToken
      split <;> rename_i heq <;> cases heq <;> first
        | exact absurd valid.1 (by decide)
        | simp only [no_space, start, taken, dropped, if_true, Bool.false_eq_true, if_false]

/-! ### Written selectors -/

/-- The tokens of an operator. -/
def operatorTokens : Relation → List Token
  | .equals => [.delim '=']
  | .contains => [.delim '*', .delim '=']
  | .startsWith => [.delim '^', .delim '=']
  | .endsWith => [.delim '$', .delim '=']

/-- The tokens of a test. -/
def Attribute.tokens (a : Attribute) : List Token :=
  .leftBracket :: .ident a.name.chars :: operatorTokens a.relation ++
    [.string a.value.toList, .rightBracket]

/-- The tokens of a compound selector. -/
def Compound.tokens (c : Compound) : List Token :=
  c.tag.elim [] (fun t => [.ident t.chars]) ++ c.attributes.flatMap Attribute.tokens

/-- A test as it is read. -/
def Attribute.read (a : Attribute) : ReadAttribute := ⟨a.name.chars, a.relation, a.value.toList⟩

/-- A compound selector as it is read. -/
def Compound.read (c : Compound) : ReadCompound :=
  ⟨c.tag.map (·.chars), c.attributes.map Attribute.read⟩

theorem lexes_attribute (a : Attribute) {rest : List Char} {us : List Token} (h : Lexes rest us) :
    Lexes (a.render ++ rest) (a.tokens ++ us) := by
  have bracket : Lexes (']' :: rest) (.rightBracket :: us) := .cons rfl h
  have value : Lexes (quote a.value.toList ++ ']' :: rest)
      (.string a.value.toList :: .rightBracket :: us) := by
    refine .cons ?_ bracket
    simp [quote, readToken, readString_quote]
  have sign : Lexes (operator a.relation ++ (quote a.value.toList ++ ']' :: rest))
      (operatorTokens a.relation ++ .string a.value.toList :: .rightBracket :: us) := by
    cases a.relation with
    | equals => exact .cons rfl value
    | contains => exact .cons rfl (.cons rfl value)
    | startsWith => exact .cons rfl (.cons rfl value)
    | endsWith => exact .cons rfl (.cons rfl value)
  have stops : stopsIdent (operator a.relation ++ (quote a.value.toList ++ ']' :: rest)) = true := by
    cases a.relation <;> rfl
  have name := Lexes.cons (readToken_name a.name stops) sign
  have test : Lexes ('[' :: (a.name.chars ++
    (operator a.relation ++ (quote a.value.toList ++ ']' :: rest)))) _ := .cons rfl name
  simpa [Attribute.render, Attribute.tokens] using test

theorem lexes_attributes (as : List Attribute) {rest : List Char} {us : List Token}
    (h : Lexes rest us) :
    Lexes (as.flatMap Attribute.render ++ rest) (as.flatMap Attribute.tokens ++ us) := by
  induction as with
  | nil => exact h
  | cons a as ih => simpa using lexes_attribute a ih

theorem lexes_compound (c : Compound) {rest : List Char} {us : List Token}
    (hr : stopsIdent rest = true) (h : Lexes rest us) :
    Lexes (c.render ++ rest) (c.tokens ++ us) := by
  obtain ⟨tag, as⟩ := c
  have attributes := lexes_attributes as h
  cases tag with
  | none => simpa [Compound.render, Compound.tokens] using attributes
  | some t =>
      have stops : stopsIdent (as.flatMap Attribute.render ++ rest) = true := by
        cases as with
        | nil => exact hr
        | cons a as => rfl
      simpa [Compound.render, Compound.tokens] using Lexes.cons (readToken_name t stops) attributes

theorem intercalate_cons (first : List Char) (rest : List (List Char)) :
    [',', ' '].intercalate (first :: rest) = first ++ rest.flatMap fun t => ',' :: ' ' :: t := by
  induction rest generalizing first with
  | nil => simp
  | cons t rest ih => rw [List.intercalate_cons_cons, ih]; simp

/-- A compound selector starts with a bracket or a name. -/
theorem head_render (c : Compound) : ∀ d ∈ c.render.head?, d = '[' ∨ isNameStart d = true := by
  obtain ⟨tag, as⟩ := c
  cases tag with
  | none =>
      cases as with
      | nil => simp [Compound.render]
      | cons a as => simp [Compound.render, Attribute.render]
  | some t =>
      obtain ⟨chars, valid⟩ := t
      cases chars with
      | nil => cases valid
      | cons d chars =>
          rw [isName, Bool.and_eq_true] at valid
          simp [Compound.render, valid.1]

theorem isSpace_of_head {d : Char} (h : d = '[' ∨ isNameStart d = true) : isSpace d = false := by
  rcases h with rfl | h
  · rfl
  · exact isSpace_of_isNameStart h

theorem dropWhile_append {text rest : List Char} (ht : ∀ d ∈ text.head?, isSpace d = false)
    (hr : rest.dropWhile isSpace = rest) : (text ++ rest).dropWhile isSpace = text ++ rest := by
  cases text with
  | nil => exact hr
  | cons d text => exact List.dropWhile_cons_of_neg (by simp [ht d rfl])

/-- No compound selector starts with white space. -/
theorem dropWhile_compound (c : Compound) {rest : List Char}
    (hr : rest.dropWhile isSpace = rest) :
    (c.render ++ rest).dropWhile isSpace = c.render ++ rest :=
  dropWhile_append (fun d hd => isSpace_of_head (head_render c d hd)) hr

/-- The compound selectors after the first, with a comma and a space before each. -/
theorem lexes_more (cs : List Compound) :
    stopsIdent (cs.flatMap fun c => ',' :: ' ' :: c.render) = true ∧
      Lexes (cs.flatMap fun c => ',' :: ' ' :: c.render)
        (cs.flatMap fun c => .comma :: .space :: c.tokens) := by
  induction cs with
  | nil => exact ⟨rfl, .nil⟩
  | cons c cs ih =>
      obtain ⟨stops, lexes⟩ := ih
      refine ⟨rfl, ?_⟩
      have compound := lexes_compound c stops lexes
      have space : Lexes (' ' :: (c.render ++ cs.flatMap fun c => ',' :: ' ' :: c.render))
          (.space :: (c.tokens ++ cs.flatMap fun c => .comma :: .space :: c.tokens)) := by
        refine .cons ?_ compound
        have text : (cs.flatMap fun c => ',' :: ' ' :: c.render).dropWhile isSpace =
            cs.flatMap fun c => ',' :: ' ' :: c.render := by
          cases cs <;> rfl
        have read : readToken (' ' :: (c.render ++ cs.flatMap fun c => ',' :: ' ' :: c.render)) =
            some (.space, (c.render ++ cs.flatMap fun c => ',' :: ' ' :: c.render).dropWhile
              isSpace) := rfl
        rw [read, dropWhile_compound c text]
      simpa using Lexes.cons (t := .comma) rfl space

/-- A compound selector without a tag has a test. -/
def Compound.Asks (c : Compound) : Prop := c.tag = none → c.attributes ≠ []

theorem readAttributes_tokens (as : List Attribute) :
    readAttributes (as.flatMap Attribute.tokens) = some (as.map Attribute.read) := by
  induction as with
  | nil => rfl
  | cons a as ih =>
      obtain ⟨name, relation, value⟩ := a
      rw [List.flatMap_cons]
      cases relation <;>
        simp [Attribute.tokens, operatorTokens, readAttributes, ih, Attribute.read]

theorem readCompound_tokens {c : Compound} (h : c.Asks) : readCompound c.tokens = some c.read := by
  obtain ⟨tag, as⟩ := c
  have attributes := readAttributes_tokens as
  cases tag with
  | some t => simp [Compound.tokens, readCompound, attributes, Compound.read]
  | none =>
      cases as with
      | nil => simp [Compound.Asks] at h
      | cons a as =>
          rw [List.flatMap_cons] at attributes
          simpa [Compound.tokens, readCompound, Attribute.tokens, Compound.read] using attributes

theorem not_mem_tokens (c : Compound) : .comma ∉ c.tokens ∧ .space ∉ c.tokens := by
  have test : ∀ a : Attribute, .comma ∉ a.tokens ∧ .space ∉ a.tokens := by
    intro a
    rw [Attribute.tokens]
    cases a.relation <;> simp [operatorTokens]
  obtain ⟨tag, as⟩ := c
  cases tag <;> simp [Compound.tokens, test]

theorem trim_eq {ts : List Token} (h : .space ∉ ts) : trim ts = ts ∧ trim (.space :: ts) = ts := by
  have keep : ∀ us : List Token, .space ∉ us → us.dropWhile (· = .space) = us := by
    intro us hus
    cases us with
    | nil => rfl
    | cons u us => exact List.dropWhile_cons_of_neg (by simp_all [eq_comm])
  have whole : trim ts = ts := by
    rw [trim, keep ts h, keep _ (by simpa using h), List.reverse_reverse]
  refine ⟨whole, ?_⟩
  rw [trim, List.dropWhile_cons_of_pos (by simp)]
  exact whole

/-- The pieces between the commas are the compound selectors. -/
theorem splitOn_tokens (c : Compound) (cs : List Compound) :
    (c.tokens ++ cs.flatMap fun c => .comma :: .space :: c.tokens).splitOn .comma =
      c.tokens :: cs.map fun c => .space :: c.tokens := by
  -- The first piece may be any, so that the induction can go on from one that starts with a space.
  have split : ∀ (cs : List Compound) (first : List Token), .comma ∉ first →
      (first ++ cs.flatMap fun c => .comma :: .space :: c.tokens).splitOn .comma =
        first :: cs.map fun c => .space :: c.tokens := by
    intro cs
    induction cs with
    | nil =>
        intro first hf
        simpa using List.splitOn_eq_singleton hf
    | cons d ds ih =>
        intro first hf
        have piece : Token.comma ∉ Token.space :: d.tokens := by simp [not_mem_tokens]
        rw [List.flatMap_cons, List.cons_append, List.cons_append,
          List.splitOn_append_cons_self_of_not_mem hf, ← List.cons_append, ih _ piece, List.map_cons]
  exact split cs c.tokens (not_mem_tokens c).1

/-- Every piece is read as the compound selector that it was. -/
theorem mapM_pieces {cs : List Compound} (h : ∀ c ∈ cs, c.Asks) :
    (cs.map fun c => .space :: c.tokens).mapM (readCompound ∘ trim) =
      some (cs.map Compound.read) := by
  induction cs with
  | nil => rfl
  | cons c cs ih =>
      obtain ⟨hc, hcs⟩ := List.forall_mem_cons.1 h
      have piece : readCompound (trim (.space :: c.tokens)) = some c.read := by
        rw [(trim_eq (not_mem_tokens c).2).2, readCompound_tokens hc]
      rw [List.map_cons, List.mapM_cons, ih hcs]
      simp [piece]

/-- **Written compound selectors are read as they were.** -/
theorem reads_render {cs : List Compound} (hne : cs ≠ []) (h : ∀ c ∈ cs, c.Asks) :
    Reads (render cs) (cs.map Compound.read) := by
  cases cs with
  | nil => exact absurd rfl hne
  | cons c cs =>
      obtain ⟨stops, lexes⟩ := lexes_more cs
      obtain ⟨hc, hcs⟩ := List.forall_mem_cons.1 h
      refine ⟨c.tokens ++ cs.flatMap fun c => .comma :: .space :: c.tokens, ?_, ?_⟩
      · simpa [render, intercalate_cons, List.flatMap_map] using lexes_compound c stops lexes
      · have piece : readCompound (trim c.tokens) = some c.read := by
          rw [(trim_eq (not_mem_tokens c).2).1, readCompound_tokens hc]
        rw [splitOn_tokens, List.mapM_cons, mapM_pieces hcs]
        simp [piece]

end WebDriverClient.Locator.Css
