/-
**JSON values.**

A number is an integer of 64 bits or a double, and the two kinds are different values.  The members
of an object are kept sorted by key, each key once, so that equal objects are equal lists; `insert`
and `ofMembers` build them that way.

Main definitions:

* `Json` — the values;
* `Json.insert`, `Json.ofMembers` — objects from members in any order, the last of a key winning;
* `Json.get?` — the member of an object;
* `Json.alike` — equality of values, in which the two zeros count as the same number.
-/

import WebDriverClient.Number.Double

set_option autoImplicit false

namespace WebDriverClient

/-- A JSON number. -/
inductive Json.Number where
  /-- An integer between `-2 ^ 63` and `2 ^ 64 - 1`. -/
  | int (i : Int)
  | double (d : Double)
deriving DecidableEq, Inhabited

/-- A JSON value. -/
inductive Json where
  | null
  | bool (b : Bool)
  | number (n : Json.Number)
  | string (s : String)
  | array (items : List Json)
  /-- An object, whose members are sorted by key. -/
  | object (members : List (String × Json))
deriving Inhabited

namespace Json

/-- An integer as a value. -/
def int (i : Int) : Json := .number (.int i)

/-- A natural as a value. -/
def nat (n : Nat) : Json := .int n

/-- A double as a value. -/
def double (d : Double) : Json := .number (.double d)

/-- Adds a member in the place of its key, replacing the member that has it. -/
def insert (key : String) (value : Json) : List (String × Json) → List (String × Json)
  | [] => [(key, value)]
  | (k, v) :: rest =>
    if key = k then (key, value) :: rest
    else if key < k then (key, value) :: (k, v) :: rest
    else (k, v) :: insert key value rest

/-- The object with the given members; of several with one key the last counts. -/
def ofMembers (members : List (String × Json)) : Json :=
  .object (members.foldl (fun sorted m => insert m.1 m.2 sorted) [])

/-- The value of a member. -/
def find? (key : String) (members : List (String × Json)) : Option Json :=
  (members.find? (·.1 = key)).map (·.2)

/-- The member of an object. -/
def get? (key : String) : Json → Option Json
  | .object members => find? key members
  | _ => none

/-- The values are the same number. -/
def Number.alike : Number → Number → Bool
  | .int i, .int j => i == j
  | .double d, .double e => d.alike e
  | _, _ => false

mutual

/-- Equality of values, in which the two zeros count as the same number. -/
def alike : Json → Json → Bool
  | .null, .null => true
  | .bool a, .bool b => a == b
  | .number a, .number b => a.alike b
  | .string a, .string b => a == b
  | .array a, .array b => alikeItems a b
  | .object a, .object b => alikeMembers a b
  | _, _ => false

/-- `alike` for the items of two arrays. -/
def alikeItems : List Json → List Json → Bool
  | [], [] => true
  | a :: as, b :: bs => alike a b && alikeItems as bs
  | _, _ => false

/-- `alike` for the members of two objects. -/
def alikeMembers : List (String × Json) → List (String × Json) → Bool
  | [], [] => true
  | (k, a) :: as, (l, b) :: bs => k == l && alike a b && alikeMembers as bs
  | _, _ => false

end

end Json

end WebDriverClient
