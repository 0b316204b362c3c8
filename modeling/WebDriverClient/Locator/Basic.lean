/-
**Locators.**

What is looked for in a page: an expression, which has to be compiled, or a query, which is sent as
it is.

Main definitions:

* `Locator` — the locators;
* `Locator.resolve` — the query that is sent for a locator, if it has one.
-/

import WebDriverClient.Locator.Compile

set_option autoImplicit false

namespace WebDriverClient

/-- What is looked for in a page. -/
inductive Locator where
  | expression (e : Locator.Expression)
  | query (q : Locator.Query)

namespace Locator

/-- The query that is sent for a locator. -/
def resolve : Locator → Except Failure Query
  | expression e => e.compile
  | query q => .ok q

end Locator

end WebDriverClient
