/-
**The grammar of XPath 1.0.**

The productions of the recommendation (sections 2 and 3), over tokens.  Every kind of expression
whose operators group to the left is one symbol with a level, and the operands of a level are the
expressions of the next one.  The trees are what the productions build; parentheses stay in them.

Main definitions:

* `XPath.Expr` — the trees;
* `XPath.Derives` — the productions;
* `XPath.Parses` — a text has a tree.
-/

import WebDriverClient.Proofs.Locator.XPath.Lexical

set_option autoImplicit false

namespace WebDriverClient.Locator.XPath

/-! ### Trees -/

/-- What a step asks of a node. -/
inductive NodeTest where
  | name (t : NameTest)
  | type (t : NodeType)
  | instruction (target : Literal)

/-- Expressions, and their parts that are paths. -/
inductive Expr where
  | binary (o : BinaryOperator) (left right : Expr)
  | negative (inner : Expr)
  | literal (l : Literal)
  | number (text : List Char)
  /-- The value of a variable. -/
  | reference (name : QName)
  | group (inner : Expr)
  | call (function : QName) (arguments : List Expr)
  | filtered (inner predicate : Expr)
  /-- A path from the nodes of an expression. -/
  | joined (inner : Expr) (s : Separator) (path : Expr)
  | root
  | absolute (s : Separator) (path : Expr)
  | further (path : Expr) (s : Separator) (step : Expr)
  | step (axis : Axis) (test : NodeTest) (predicates : List Expr)
  | self
  | parent

/-! ### Symbols -/

/-- The kinds of expressions whose operators group to the left. -/
inductive Level where
  | or | and | equality | relational | additive | multiplicative | union
deriving DecidableEq

/-- The level of an operator. -/
def BinaryOperator.level : BinaryOperator → Level
  | .or => .or
  | .and => .and
  | .equal | .unequal => .equality
  | .less | .lessEqual | .greater | .greaterEqual => .relational
  | .plus | .minus => .additive
  | .times | .div | .mod => .multiplicative
  | .union => .union

/-- The symbols on the left of the productions. -/
inductive Symbol where
  | chain (l : Level)
  /-- A union, or a minus sign and one. -/
  | unary
  /-- A path, from the document, from the context or from a filter. -/
  | path
  /-- A path that starts with no expression. -/
  | location
  | relative
  | step
  | filter
  | primary
deriving DecidableEq

/-- The operands of a level. -/
def Level.operand : Level → Symbol
  | .or => .chain .and
  | .and => .chain .equality
  | .equality => .chain .relational
  | .relational => .chain .additive
  | .additive => .chain .multiplicative
  | .multiplicative => .unary
  | .union => .path

/-! ### Productions -/

/-- How the direction of a step is written. -/
inductive AxisSpecifier where
  | named (a : Axis)
  /-- By an at sign, which stands for attributes. -/
  | short
  /-- Not at all, which stands for children. -/
  | omitted

/-- The direction. -/
def AxisSpecifier.axis : AxisSpecifier → Axis
  | .named a => a
  | .short => .attr
  | .omitted => .child

/-- The tokens of a direction. -/
def AxisSpecifier.tokens : AxisSpecifier → List Token
  | .named a => [.axis a, .colons]
  | .short => [.at]
  | .omitted => []

/-- The tokens of a node test. -/
def NodeTest.tokens : NodeTest → List Token
  | .name t => [.nameTest t]
  | .type t => [.nodeType t, .leftParen, .rightParen]
  | .instruction l => [.nodeType .processingInstruction, .leftParen, .literal l, .rightParen]

/-- The tokens of a predicate. -/
def inBrackets (ts : List Token) : List Token := .leftBracket :: ts ++ [.rightBracket]

/-- The productions: tokens that a symbol derives, and the tree that they build. -/
inductive Derives : Symbol → List Token → Expr → Prop
  | operand {l : Level} {ts : List Token} {E : Expr} (h : Derives l.operand ts E) :
      Derives (.chain l) ts E
  | operation {o : BinaryOperator} {ts us : List Token} {L R : Expr}
      (hl : Derives (.chain o.level) ts L) (hr : Derives o.level.operand us R) :
      Derives (.chain o.level) (ts ++ .operator o :: us) (.binary o L R)
  | positive {ts : List Token} {E : Expr} (h : Derives (.chain .union) ts E) : Derives .unary ts E
  | negative {ts : List Token} {E : Expr} (h : Derives .unary ts E) :
      Derives .unary (.operator .minus :: ts) (.negative E)
  | location {ts : List Token} {E : Expr} (h : Derives .location ts E) : Derives .path ts E
  | filter {ts : List Token} {E : Expr} (h : Derives .filter ts E) : Derives .path ts E
  | joined {s : Separator} {ts us : List Token} {E P : Expr} (h : Derives .filter ts E)
      (hp : Derives .relative us P) : Derives .path (ts ++ .separator s :: us) (.joined E s P)
  | root : Derives .location [.separator .slash] .root
  | absolute {s : Separator} {ts : List Token} {P : Expr} (h : Derives .relative ts P) :
      Derives .location (.separator s :: ts) (.absolute s P)
  | relative {ts : List Token} {P : Expr} (h : Derives .relative ts P) : Derives .location ts P
  | one {ts : List Token} {S : Expr} (h : Derives .step ts S) : Derives .relative ts S
  | further {s : Separator} {ts us : List Token} {P S : Expr} (h : Derives .relative ts P)
      (hs : Derives .step us S) : Derives .relative (ts ++ .separator s :: us) (.further P s S)
  | step {a : AxisSpecifier} {t : NodeTest} {ps : List (List Token × Expr)}
      (h : ∀ p ∈ ps, Derives (.chain .or) p.1 p.2) :
      Derives .step (a.tokens ++ t.tokens ++ ps.flatMap fun p => inBrackets p.1)
        (.step a.axis t (ps.map Prod.snd))
  | self : Derives .step [.dot] .self
  | parent : Derives .step [.dots] .parent
  | plain {ts : List Token} {E : Expr} (h : Derives .primary ts E) : Derives .filter ts E
  | filtered {ts us : List Token} {E P : Expr} (h : Derives .filter ts E)
      (hp : Derives (.chain .or) us P) : Derives .filter (ts ++ inBrackets us) (.filtered E P)
  | reference {x : QName} : Derives .primary [.reference x] (.reference x)
  | literal {l : Literal} : Derives .primary [.literal l] (.literal l)
  | number {n : List Char} : Derives .primary [.number n] (.number n)
  | group {ts : List Token} {E : Expr} (h : Derives (.chain .or) ts E) :
      Derives .primary (.leftParen :: ts ++ [.rightParen]) (.group E)
  | call {f : QName} {as : List (List Token × Expr)}
      (h : ∀ a ∈ as, Derives (.chain .or) a.1 a.2) :
      Derives .primary
        (.function f :: .leftParen :: [.comma].intercalate (as.map Prod.fst) ++ [.rightParen])
        (.call f (as.map Prod.snd))

/-- A text has a tree, by the lexical rules and the grammar. -/
def Parses (text : List Char) (E : Expr) : Prop :=
  ∃ ts, Lexes false text ts ∧ Derives (.chain .or) ts E

end WebDriverClient.Locator.XPath
