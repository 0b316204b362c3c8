/-
**Values survive the wire.**

What is sent is read back as the value that was sent.  For the records that replies bring too this
is the same record seen from both ends; the parameters of printing and the queries only go out, and
have readers of their own here.  Since a reader gives each value back, no two values are sent as the
same JSON.

Main definitions:

* `PrintOptions.decode`, `Locator.Query.decode` — readers of what only goes out.

Main results:

* `Rect.decode_toJson`, `Timeouts.decode_toJson`, `Cookie.decode_toJson`,
  `PrintOptions.decode_toJson` and others — **decoding undoes encoding**;
* `ElementId.decodeReference_reference` — the reference to an element is read as its identifier.
-/

import WebDriverClient.Locator.Query
import WebDriverClient.Proofs.Wire.Members

set_option autoImplicit false

namespace WebDriverClient

open Json (Decoder Fields)
open Json.Fields (Accepts accepts_required accepts_optional accepts_field accepts_field_absent
  decode_ofMembers decode_presentMembers)

/-! ### Plain values -/

theorem Json.Decoder.natural_int {i : Int} (h : 0 ≤ i ∧ i < Nat.pow 2 64) :
    Decoder.natural (.int i) = .ok (UInt64.ofNat i.toNat) :=
  if_pos h

theorem Json.Decoder.natural_nat (n : UInt64) : Decoder.natural (.nat n.toNat) = .ok n := by
  have bound : (0 : Int) ≤ (n.toNat : Int) ∧ (n.toNat : Int) < Nat.pow 2 64 :=
    ⟨Int.natCast_nonneg _, Int.ofNat_lt.2 n.toNat_lt⟩
  rw [Json.nat, Decoder.natural_int bound, Int.toNat_natCast, UInt64.ofNat_toNat]

/-- A natural is not `null`. -/
theorem Json.Decoder.option_natural_nat (n : UInt64) :
    Decoder.option Decoder.natural (.nat n.toNat) = .ok (some n) := by
  have read : Decoder.option Decoder.natural (.nat n.toNat)
      = (Decoder.natural (.nat n.toNat)).map some := rfl
  rw [read, Decoder.natural_nat]
  rfl

/-- A list whose items are read one by one. -/
theorem Json.Decoder.listOf_map {α : Type} {decode : Decoder α} {encode : α → Json}
    (read : ∀ a, decode (encode a) = .ok a) (as : List α) :
    Decoder.listOf decode (as.map encode) = .ok as := by
  induction as with
  | nil => rfl
  | cons a as ih =>
      rw [List.map_cons, Decoder.listOf, read, ih]
      rfl

theorem SessionId.decode_toJson (id : SessionId) : SessionId.decode id.toJson = .ok id := rfl

theorem WindowHandle.decode_toJson (handle : WindowHandle) :
    WindowHandle.decode handle.toJson = .ok handle := rfl

theorem ElementId.decode_toJson (id : ElementId) : ElementId.decode id.toJson = .ok id := rfl

theorem WindowKind.decode_toJson (kind : WindowKind) :
    WindowKind.decode kind.toJson = .ok kind := by
  cases kind <;> rfl

theorem SameSite.decode_toJson (policy : SameSite) :
    SameSite.decode policy.toJson = .ok policy := by
  cases policy <;> rfl

/-! ### Records that go both ways -/

theorem ElementId.decodeReference_reference (id : ElementId) :
    ElementId.decodeReference id.reference = .ok id :=
  decode_ofMembers "ElementRef" (by simp) (accepts_required rfl rfl)

theorem Rect.decode_toJson (r : Rect) : Rect.decode r.toJson = .ok r := by
  refine decode_ofMembers "Rect" (by simp) ?_
  refine (((Accepts.map Rect.mk ?x).seq ?y).seq ?width).seq ?height
  all_goals exact accepts_required rfl rfl

theorem Timeouts.decode_toJson (t : Timeouts) : Timeouts.decode t.toJson = .ok t := by
  refine decode_presentMembers "Timeouts" (by simp) ?_
  refine ((Accepts.map Timeouts.mk ?script).seq ?pageLoad).seq ?implicit
  all_goals exact accepts_optional rfl Decoder.option_natural_nat

theorem Cookie.decode_toJson (c : Cookie) : Cookie.decode c.toJson = .ok c := by
  have policy (s : SameSite) : Decoder.option SameSite.decode s.toJson = .ok (some s) := by
    cases s <;> rfl
  refine decode_presentMembers "Cookie" (by simp) ?_
  refine (((((((Accepts.map Cookie.mk ?name).seq ?value).seq ?domain).seq ?path).seq
    ?secure).seq ?httpOnly).seq ?expiry).seq ?sameSite
  case name | value => exact accepts_required rfl rfl
  case domain | path | secure | httpOnly => exact accepts_optional rfl fun _ => rfl
  case expiry => exact accepts_optional rfl Decoder.option_natural_nat
  case sameSite => exact accepts_optional rfl policy

/-! ### Records that only go out -/

namespace PageOrientation

/-- The orientations by their names on the wire. -/
def variants : List (String × PageOrientation) :=
  [("portrait", .portrait), ("landscape", .landscape)]

/-- Reads an orientation. -/
def decode : Decoder PageOrientation := Decoder.variant variants

theorem decode_text (o : PageOrientation) : decode (.string o.text) = .ok o := by
  cases o <;> rfl

end PageOrientation

namespace PrintOptions

/-- Reads the size of a page. -/
def decodePage : Decoder PageSize :=
  Fields.decode "PageSize" (PageSize.mk <$> Fields.required "width" Decoder.double
    <*> Fields.required "height" Decoder.double)

/-- Reads the margins of a page. -/
def decodeMargin : Decoder Margins :=
  Fields.decode "Margins" (Margins.mk <$> Fields.required "top" Decoder.double
    <*> Fields.required "bottom" Decoder.double <*> Fields.required "left" Decoder.double
    <*> Fields.required "right" Decoder.double)

/-- Reads the parameters of printing. -/
def decode : Decoder PrintOptions :=
  Fields.decode "PrintOptions" (PrintOptions.mk
    <$> Fields.required "orientation" PageOrientation.decode
    <*> Fields.required "scale" Decoder.double <*> Fields.required "background" Decoder.boolean
    <*> Fields.required "page" decodePage <*> Fields.required "margin" decodeMargin
    <*> Fields.required "shrinkToFit" Decoder.boolean
    <*> Fields.withDefault "pageRanges" (Decoder.list Decoder.string) [])

theorem decodePage_members (p : PageSize) :
    decodePage (.ofMembers [("width", .double p.width), ("height", .double p.height)]) = .ok p := by
  refine decode_ofMembers "PageSize" (by simp) ?_
  refine (Accepts.map PageSize.mk ?width).seq ?height
  all_goals exact accepts_required rfl rfl

theorem decodeMargin_members (m : Margins) :
    decodeMargin (.ofMembers [("top", .double m.top), ("bottom", .double m.bottom),
      ("left", .double m.left), ("right", .double m.right)]) = .ok m := by
  refine decode_ofMembers "Margins" (by simp) ?_
  refine (((Accepts.map Margins.mk ?top).seq ?bottom).seq ?left).seq ?right
  all_goals exact accepts_required rfl rfl

/-- An empty list of pages is left out, and read where it is missing. -/
theorem accepts_pageRanges {find : String → Option Json} {ranges : List String}
    (found : find "pageRanges"
      = if ranges.isEmpty then none else some (.array (ranges.map .string))) :
    (Fields.withDefault "pageRanges" (Decoder.list Decoder.string) []).Accepts find ranges := by
  cases ranges with
  | nil => exact accepts_field_absent found
  | cons range rest =>
      have each (r : String) : Decoder.string (.string r) = .ok r := rfl
      exact accepts_field found (Decoder.listOf_map each (range :: rest))

theorem decode_toJson (o : PrintOptions) : decode o.toJson = .ok o := by
  refine decode_presentMembers "PrintOptions" (by simp) ?_
  refine ((((((Accepts.map PrintOptions.mk ?orientation).seq ?scale).seq ?background).seq
    ?page).seq ?margin).seq ?shrinkToFit).seq ?pageRanges
  case orientation => exact accepts_required rfl (PageOrientation.decode_text _)
  case scale | background | shrinkToFit => exact accepts_required rfl rfl
  case page => exact accepts_required rfl (decodePage_members _)
  case margin => exact accepts_required rfl (decodeMargin_members _)
  case pageRanges => exact accepts_pageRanges rfl

end PrintOptions

namespace Locator

/-- Reads the name of a strategy. -/
def Strategy.decode : Decoder Strategy :=
  Decoder.variant (Strategy.every.map fun s => (s.text, s))

theorem Strategy.decode_text (s : Strategy) : Strategy.decode (.string s.text) = .ok s := by
  cases s <;> rfl

/-- Reads a query. -/
def Query.decode : Decoder Query :=
  Fields.decode "Query" (Query.mk <$> Fields.required "using" Strategy.decode
    <*> Fields.required "value" Decoder.string)

theorem Query.decode_toJson (q : Query) : Query.decode q.toJson = .ok q := by
  refine decode_ofMembers "Query" (by simp) ?_
  refine (Accepts.map Query.mk ?strategy).seq ?value
  case strategy => exact accepts_required rfl (Strategy.decode_text _)
  case value => exact accepts_required rfl rfl

end Locator

end WebDriverClient
