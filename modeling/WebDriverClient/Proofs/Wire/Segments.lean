/-
**Paths and their segments.**

The path of a command is a list of texts, each percent-encoded after a slash.  The words of the
protocol are among these texts, since encoding leaves them as they are.  No encoded text holds a
slash, so a path is cut at its slashes into the forms that were put into it, and two paths are the
same only if their texts are.

Main definitions:

* `Part.text`, `Command.texts` — the texts of a path;
* `Part.isPlain` — a part that is sent as the encoded form of its text.

Main results:

* `Url.Path.splitOnP_text` — a path is cut into its segments;
* `Command.path_request` — the path of a command is that of the forms of its texts;
* `Command.path_request_inj` — **different texts have different paths**.
-/

import Mathlib.Data.List.Basic
import WebDriverClient.Proofs.Text.Percent
import WebDriverClient.Url.Path
import WebDriverClient.Wire.Command

set_option autoImplicit false

namespace WebDriverClient

/-! ### Cutting paths -/

namespace Url.Path

@[simp] theorem text_nil : text [] = [] := rfl

theorem text_cons (segment : List Char) (rest : List (List Char)) :
    text (segment :: rest) = '/' :: (segment ++ text rest) := rfl

variable {p : Char → Bool}

/-- What comes before the first slash of a path is a segment. -/
theorem splitOnP_append_text (slash : p '/' = true) {segment : List Char}
    {rest : List (List Char)} (free : ∀ s ∈ segment :: rest, ∀ c ∈ s, p c = false) :
    (segment ++ text rest).splitOnP p = segment :: rest := by
  induction rest generalizing segment with
  | nil =>
      rw [text_nil, List.append_nil]
      exact List.splitOnP_eq_singleton (free segment List.mem_cons_self)
  | cons next rest ih =>
      have here := free segment List.mem_cons_self
      have later := ih fun s mem => free s (List.mem_cons_of_mem _ mem)
      rw [text_cons, List.splitOnP_append_cons_of_forall_mem here _ slash, later]

/-- A path is cut at its slashes into its segments. -/
theorem splitOnP_text (slash : p '/' = true) {segments : List (List Char)}
    (free : ∀ s ∈ segments, ∀ c ∈ s, p c = false) :
    (text segments).splitOnP p = [] :: segments := by
  have free : ∀ s ∈ [] :: segments, ∀ c ∈ s, p c = false := by
    intro s mem
    rcases List.mem_cons.1 mem with rfl | mem
    · exact fun c mem => (nomatch mem)
    · exact free s mem
  exact splitOnP_append_text slash free

end Url.Path

/-! ### Texts of a path -/

namespace Part

/-- The text that a part stands for. -/
def text : Part → String
  | .word w => w
  | .given s => s

/-- The part is sent as the form of its text: a given text always is, and a word is if it needs no
encoding. -/
def isPlain : Part → Bool
  | .word w => Percent.encode Percent.isUnreserved w = w.toList
  | .given _ => true

theorem encode_of_isPlain {part : Part} (h : part.isPlain = true) :
    part.encode = '/' :: Percent.encode Percent.isUnreserved part.text := by
  cases part with
  | word w => exact congrArg ('/' :: ·) (of_decide_eq_true h).symm
  | given s => rfl

end Part

theorem pathOf_eq {parts : List Part} (plain : parts.all Part.isPlain = true) :
    pathOf parts
      = String.ofList (Url.Path.text (parts.map fun part =>
          Percent.encode Percent.isUnreserved part.text)) := by
  unfold pathOf Url.Path.text
  rw [List.flatMap_map, List.flatMap_congr]
  exact fun part mem => Part.encode_of_isPlain (List.all_eq_true.1 plain part mem)

namespace Command

/-- The texts of the path of a command in a session. -/
def texts (c : Command) (session : SessionId) : List String := (c.segments session).map Part.text

/-- The words of every route need no encoding. -/
theorem isPlain_parts (c : Command) : c.route.parts.all Part.isPlain = true := by
  cases c <;> rfl

theorem isPlain_segments (c : Command) (session : SessionId) :
    (c.segments session).all Part.isPlain = true := by
  rw [segments, List.all_cons, List.all_cons, isPlain_parts]
  rfl

/-- The path of a command is that of the forms of its texts. -/
theorem path_request (c : Command) (session : SessionId) :
    (c.request session).path
      = String.ofList (Url.Path.text
          ((c.texts session).map (Percent.encode Percent.isUnreserved))) := by
  have path := pathOf_eq (isPlain_segments c session)
  rw [texts, List.map_map]
  exact path

/-- The form of a text holds no slash. -/
theorem ne_slash_of_mem {s : String} {c : Char} (h : c ∈ Percent.encode Percent.isUnreserved s) :
    c ≠ '/' :=
  Percent.of_isCoded (p := (· ≠ '/')) (by decide) (Percent.isCoded_of_mem h)

/-- Two commands have the same path only if its texts are the same. -/
theorem path_request_inj {c₁ c₂ : Command} {s₁ s₂ : SessionId} :
    (c₁.request s₁).path = (c₂.request s₂).path ↔ c₁.texts s₁ = c₂.texts s₂ := by
  have free (texts : List String) (s) (mem : s ∈ texts.map (Percent.encode Percent.isUnreserved))
      (c) (here : c ∈ s) : decide (c = '/') = false := by
    obtain ⟨text, -, rfl⟩ := List.mem_map.1 mem
    exact decide_eq_false (ne_slash_of_mem here)
  rw [path_request, path_request]
  constructor
  · intro same
    have cut := congrArg (List.splitOnP (fun c => decide (c = '/'))) (String.ofList_injective same)
    rw [Url.Path.splitOnP_text (by decide) (free _), Url.Path.splitOnP_text (by decide) (free _)]
      at cut
    exact List.map_injective_iff.2 (Percent.encode_injective Percent.readable_isUnreserved)
      (List.cons.inj cut).2
  · intro same
    rw [same]

end Command

end WebDriverClient
