/-
**The tokens of XPath 1.0.**

The lexical rules of the recommendation (section 3.7).  The longest token is read, white space
between tokens is skipped, and three rules tell names and stars apart: after a token that ends an
operand, a name is an operator and a star a multiplication; a name before an opening parenthesis is
a node type or a function; a name before two colons is an axis.

Main definitions:

* `XPath.Token` — the tokens;
* `XPath.readToken` — the first token of a text;
* `XPath.Lexes` — a text has a list of tokens.

Main results:

* `XPath.Lexes.unique` — a text has at most one list of tokens.
-/

import WebDriverClient.Locator.XPath

set_option autoImplicit false

namespace WebDriverClient.Locator.XPath

/-! ### Tokens -/

/-- The operators with two operands that are not part of a path. -/
inductive BinaryOperator where
  | or | and | equal | unequal | less | lessEqual | greater | greaterEqual | plus | minus | times
  | div | mod | union
deriving DecidableEq

/-- The operators that are written as a name. -/
def BinaryOperator.ofName? (name : List Char) : Option BinaryOperator :=
  [("or".toList, or), ("and".toList, and), ("div".toList, div), ("mod".toList, mod)].lookup name

/-- What stands between the steps of a path. -/
inductive Separator where
  | slash
  /-- Two slashes: any number of steps down. -/
  | slashes
deriving DecidableEq

/-- The directions of a step. -/
inductive Axis where
  | ancestor | ancestorOrSelf | attr | child | descendant | descendantOrSelf | following
  | followingSibling | namespaces | parent | preceding | precedingSibling | self
deriving DecidableEq

/-- The axis with a name. -/
def Axis.ofName? (name : List Char) : Option Axis :=
  [("ancestor".toList, ancestor), ("ancestor-or-self".toList, ancestorOrSelf),
    ("attribute".toList, attr), ("child".toList, child), ("descendant".toList, descendant),
    ("descendant-or-self".toList, descendantOrSelf), ("following".toList, following),
    ("following-sibling".toList, followingSibling), ("namespace".toList, namespaces),
    ("parent".toList, parent), ("preceding".toList, preceding),
    ("preceding-sibling".toList, precedingSibling), ("self".toList, self)].lookup name

/-- The kinds of nodes that a step can ask for. -/
inductive NodeType where
  | comment | text | processingInstruction | node
deriving DecidableEq

/-- The name of a node type. -/
def NodeType.name : NodeType → String
  | .comment => "comment"
  | .text => "text"
  | .processingInstruction => "processing-instruction"
  | .node => "node"

/-- The node type with a name. -/
def NodeType.ofName? (name : List Char) : Option NodeType :=
  [comment, text, processingInstruction, node].find? (·.name.toList = name)

theorem NodeType.name_of_ofName? {name : List Char} {t : NodeType} (h : ofName? name = some t) :
    t.name.toList = name := by
  simpa using List.find?_some h

/-- A name with the name of its namespace, if one is written. -/
structure QName where
  /-- The name before the colon. -/
  space : Option (List Char)
  name : List Char
deriving DecidableEq

/-- Which names a step asks for. -/
inductive NameTest where
  | any
  | anyOf (space : List Char)
  | named (name : QName)
deriving DecidableEq

/-- The tokens. -/
inductive Token where
  | leftParen | rightParen | leftBracket | rightBracket | dot | dots | at | comma | colons
  | nameTest (t : NameTest)
  | nodeType (t : NodeType)
  | operator (o : BinaryOperator)
  | separator (s : Separator)
  | function (name : QName)
  | axis (a : Axis)
  | literal (l : Literal)
  | number (text : List Char)
  | reference (name : QName)
deriving DecidableEq

/-- After this token an operator is expected, and not an operand. -/
def Token.endsOperand : Token → Bool
  | .at | .colons | .leftParen | .leftBracket | .comma | .operator _ | .separator _ => false
  | _ => true

/-! ### Characters -/

/-- White space. -/
def isSpace (c : Char) : Bool := c = ' ' || c = '\t' || c = '\r' || c = '\n'

/-- The ranges of characters beyond ASCII that may start a name. -/
def startRanges : List (Nat × Nat) :=
  [(0xC0, 0xD6), (0xD8, 0xF6), (0xF8, 0x2FF), (0x370, 0x37D), (0x37F, 0x1FFF), (0x200C, 0x200D),
    (0x2070, 0x218F), (0x2C00, 0x2FEF), (0x3001, 0xD7FF), (0xF900, 0xFDCF), (0xFDF0, 0xFFFD),
    (0x10000, 0xEFFFF)]

/-- A character that may start a name without a colon. -/
def startsNcName (c : Char) : Bool :=
  c.isAlpha || c = '_' || startRanges.any fun r => r.1 ≤ c.toNat && c.toNat ≤ r.2

/-- A character of a name without a colon. -/
def isNcNameChar (c : Char) : Bool :=
  startsNcName c || c.isDigit || c = '-' || c = '.' || c = '·' ||
    (0x300 ≤ c.toNat && c.toNat ≤ 0x36F) || (0x203F ≤ c.toNat && c.toNat ≤ 0x2040)

/-! ### Reading one token -/

/-- A number: digits with an optional period among or around them. -/
def readNumber (text : List Char) : Token × List Char :=
  let digits := text.takeWhile Char.isDigit
  match text.dropWhile Char.isDigit with
  | '.' :: rest =>
    (.number (digits ++ '.' :: rest.takeWhile Char.isDigit), rest.dropWhile Char.isDigit)
  | rest => (.number digits, rest)

/-- A string, after its first quote. -/
def readLiteral (quote : Char) (text : List Char) : Option (Token × List Char) :=
  match text.dropWhile (· ≠ quote) with
  | _ :: rest => some (.literal ⟨quote, text.takeWhile (· ≠ quote)⟩, rest)
  | [] => none

/-- A name with an optional namespace. -/
def readQName (text : List Char) : QName × List Char :=
  let name := text.takeWhile isNcNameChar
  match text.dropWhile isNcNameChar with
  | ':' :: c :: rest =>
    if startsNcName c then
      (⟨some name, (c :: rest).takeWhile isNcNameChar⟩, (c :: rest).dropWhile isNcNameChar)
    else (⟨none, name⟩, ':' :: c :: rest)
  | rest => (⟨none, name⟩, rest)

/-- A name where an operand is expected: what follows it decides what it is. -/
def readOperandName (text : List Char) : Option (Token × List Char) :=
  match readQName text with
  | (⟨none, name⟩, ':' :: '*' :: rest) => some (.nameTest (.anyOf name), rest)
  | (q, rest) =>
    match rest.dropWhile isSpace with
    | '(' :: _ =>
      match q.space, NodeType.ofName? q.name with
      | none, some t => some (.nodeType t, rest)
      | _, _ => some (.function q, rest)
    | ':' :: ':' :: _ => if q.space = none then
        (Axis.ofName? q.name).map fun a => (.axis a, rest) else none
    | _ => some (.nameTest (.named q), rest)

/-- A name.  Where an operator is expected, it is one. -/
def readName (operator : Bool) (text : List Char) : Option (Token × List Char) :=
  if operator then
    (BinaryOperator.ofName? (text.takeWhile isNcNameChar)).map fun o =>
      (.operator o, text.dropWhile isNcNameChar)
  else readOperandName text

/-- The first token of a text that does not begin with white space, and what follows it. -/
def readToken (operator : Bool) : List Char → Option (Token × List Char)
  | '(' :: rest => some (.leftParen, rest)
  | ')' :: rest => some (.rightParen, rest)
  | '[' :: rest => some (.leftBracket, rest)
  | ']' :: rest => some (.rightBracket, rest)
  | '@' :: rest => some (.at, rest)
  | ',' :: rest => some (.comma, rest)
  | ':' :: ':' :: rest => some (.colons, rest)
  | '/' :: '/' :: rest => some (.separator .slashes, rest)
  | '/' :: rest => some (.separator .slash, rest)
  | '|' :: rest => some (.operator .union, rest)
  | '+' :: rest => some (.operator .plus, rest)
  | '-' :: rest => some (.operator .minus, rest)
  | '=' :: rest => some (.operator .equal, rest)
  | '!' :: '=' :: rest => some (.operator .unequal, rest)
  | '<' :: '=' :: rest => some (.operator .lessEqual, rest)
  | '<' :: rest => some (.operator .less, rest)
  | '>' :: '=' :: rest => some (.operator .greaterEqual, rest)
  | '>' :: rest => some (.operator .greater, rest)
  | '*' :: rest => some (if operator then .operator .times else .nameTest .any, rest)
  | '"' :: rest => readLiteral '"' rest
  | '\'' :: rest => readLiteral '\'' rest
  | '.' :: '.' :: rest => some (.dots, rest)
  | '.' :: rest =>
    if rest.head?.any Char.isDigit then some (readNumber ('.' :: rest)) else some (.dot, rest)
  | '$' :: c :: rest =>
    if startsNcName c then
      let (q, rest) := readQName (c :: rest)
      some (.reference q, rest)
    else none
  | c :: rest =>
    if c.isDigit then some (readNumber (c :: rest))
    else if startsNcName c then readName operator (c :: rest)
    else none
  | [] => none

/-! ### Lists of tokens -/

/-- A text has a list of tokens; `operator` tells that an operator is expected first. -/
inductive Lexes : Bool → List Char → List Token → Prop
  | nil {operator : Bool} {text : List Char} (h : text.dropWhile isSpace = []) :
      Lexes operator text []
  | cons {operator : Bool} {text rest : List Char} {t : Token} {ts : List Token}
      (h : readToken operator (text.dropWhile isSpace) = some (t, rest))
      (hs : Lexes t.endsOperand rest ts) : Lexes operator text (t :: ts)

/-- **A text has at most one list of tokens.** -/
theorem Lexes.unique {operator : Bool} {text : List Char} {ts us : List Token}
    (h : Lexes operator text ts) (h' : Lexes operator text us) : ts = us := by
  induction h generalizing us with
  | nil hn =>
      cases h' with
      | nil => rfl
      | cons hc => rw [hn] at hc; cases hc
  | cons hc _ ih =>
      cases h' with
      | nil hn => rw [hn] at hc; cases hc
      | cons hc' hs' =>
          rw [hc] at hc'
          cases hc'
          rw [ih hs']

end WebDriverClient.Locator.XPath
