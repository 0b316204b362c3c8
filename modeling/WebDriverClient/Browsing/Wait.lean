/-
**Waiting.**

A condition is waited for by checking it again and again, with a pause after each check, until it
holds or the time is over.  The last check is made when the time is over, not before.  A check that
fails because no element is there counts as one that does not hold yet; any other failure ends the
wait.

Main definitions:

* `Poll` — what a check finds out;
* `WaitOptions` — how long to wait and how long to pause;
* `ElementCondition`, `DocumentCondition` — the conditions;
* `World.waitFrom?`, `waitUntil?` — the wait, which need not end;
* `waitUntil` — the wait as an operation.
-/

import WebDriverClient.Browsing.Client

set_option autoImplicit false

namespace WebDriverClient

/-! ### Options and conditions -/

/-- How a condition is waited for. -/
structure WaitOptions where
  timeout : Duration := .ofMilliseconds 30000
  interval : Duration := .ofMilliseconds 200
deriving DecidableEq, Repr

/-- What is waited for of an element. -/
inductive ElementCondition where
  | presence
  | enabled
deriving DecidableEq, Repr

/-- The condition as it is shown in messages. -/
def ElementCondition.text : ElementCondition → String
  | presence => "element presence"
  | enabled => "element enabled"

/-- What is waited for of a document. -/
inductive DocumentCondition where
  /-- It has been loaded with all that it needs. -/
  | ready
  /-- It has been parsed. -/
  | interactive
deriving DecidableEq, Repr

/-- The condition as it is shown in messages. -/
def DocumentCondition.text : DocumentCondition → String
  | ready => "document ready"
  | interactive => "document interactive"

/-- A document in this state meets the condition. -/
def DocumentCondition.holds : DocumentCondition → ReadyState → Bool
  | ready, state => state = .complete
  | interactive, state => state ≠ .loading

/-! ### The wait -/

/-- What a check finds out. -/
inductive Poll (α : Type) where
  | ready (a : α)
  | pending

/-- What a check decides, if it decides anything. -/
def Poll.verdict {α : Type} : Except Failure (Poll α) → Option (Except Failure α)
  | .ok (.ready a) => some (.ok a)
  | .ok .pending => none
  | .error e => if e.isRetryable then none else some (.error e)

section

variable {σ α : Type} (check : Client σ (Poll α))

/-- What comes of waiting until the deadline, from a world on.  Nothing comes of a wait that does
not end. -/
def World.waitFrom? (w : World σ) (interval deadline : Nat) : Option (Run σ (Option α)) :=
  let checked := check.run w
  let trace := .check w.clock :: checked.trace
  match Poll.verdict checked.outcome with
  | some verdict => some ⟨some <$> verdict, trace, checked.world⟩
  | none =>
    let now := checked.world.clock
    if deadline ≤ now then some ⟨.ok none, trace, checked.world⟩
    else do
      let rest ← { checked.world with clock := now + min interval (deadline - now) }
        |>.waitFrom? interval deadline
      return { rest with trace := trace ++ rest.trace }
partial_fixpoint

/-- What comes of waiting until a check decides or the time is over.  A wait without pauses does not
end if its checks take no time and decide nothing. -/
def waitUntil? (options : WaitOptions) (w : World σ) : Option (Run σ (Option α)) :=
  w.waitFrom? check options.interval.nanoseconds (w.clock + options.timeout.nanoseconds)

/-- Waits until a check decides or the time is over.  Where a wait does not end, there is none to
speak of; the one that pauses until its deadline stands in for it. -/
def waitUntil (options : WaitOptions) : Client σ (Option α) := fun w =>
  match waitUntil? check options w with
  | some r => r
  | none =>
    (waitUntil? check { options with interval := options.timeout } w).getD ⟨.ok none, [], w⟩

end

end WebDriverClient
