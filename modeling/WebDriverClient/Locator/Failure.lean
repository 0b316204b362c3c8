/-
**Why a locator has no selector.**

Main definitions:

* `Locator.Failure` — the reasons;
* `Locator.Failure.message` — their wording.
-/

set_option autoImplicit false

namespace WebDriverClient.Locator

/-- What a refused name names. -/
inductive NameKind where
  | attr
  | function
  | tag
deriving DecidableEq, Repr

/-- The word for a kind of name. -/
def NameKind.text : NameKind → String
  | .attr => "attribute"
  | .function => "function"
  | .tag => "tag"

/-- Why a locator has no selector. -/
inductive Failure where
  | tagContradiction (first second : String)
  | negatedTag (tag : String)
  | invalidName (kind : NameKind) (name : String)
  | linkTextNotComposable (text : String)
deriving DecidableEq, Repr

/-- The wording of a reason. -/
def Failure.message : Failure → String
  | .tagContradiction first second => s!"an element cannot be both <{first}> and <{second}>"
  | .negatedTag tag => s!"cannot negate an expression that fixes the tag <{tag}>"
  | .invalidName kind name => s!"invalid {kind.text} name \"{name}\""
  | .linkTextNotComposable text =>
    s!"link text \"{text}\" cannot be combined with other locators"

end WebDriverClient.Locator
