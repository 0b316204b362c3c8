/-
**Requests go below the address of the driver.**

The path of a request is put after the form of the address that a driver is attached to, less the
slashes at its end, and the whole is read again.  What is read is always an address, at the same
host and port.  The path of the driver is extended if its address ends there, whatever prefix that
is.  The form of an address ends in its fragment or its query if it has them; then one of these is
extended, and the path of the request is lost.

Main definitions:

* `Request.IsDotFree` — the requests of commands none of whose segments is one dot or two dots;
* `Url.authority?` — the user, the host and the port of an address;
* `Url.extended` — where the path of a request goes.

Main results:

* `HttpTransport.address_of_path`, `address_of_query`, `address_of_fragment` — which part of an
  address is extended;
* `HttpTransport.address_attached` — **the address of a request to a driver that is attached to**.
-/

import WebDriverClient.Endpoint.Driver
import WebDriverClient.Proofs.Endpoint.Address

set_option autoImplicit false

namespace WebDriverClient

/-! ### Requests -/

/-- The request is that of a command none of whose segments is one dot or two dots. -/
inductive Request.IsDotFree : Request → Prop
  | endpoint (c : EndpointCommand) : IsDotFree c.request
  | session {c : Command} {session : SessionId} (free : c.IsDotFree session) :
    IsDotFree (c.request session)

/-- The path of such a request is that of the forms of texts that are kept, of which one is not
empty. -/
theorem Request.IsDotFree.exists_forms {r : Request} (h : r.IsDotFree) :
    ∃ forms, r.path.toList = Url.Path.text forms ∧
      (∀ s ∈ forms, Url.Path.IsShown s ∧ ∀ c ∈ s, Percent.isCoded c = true) ∧
      ∃ s ∈ forms, s ≠ [] := by
  obtain ⟨texts, path, plain, word, mem, some⟩ : ∃ texts : List String,
      r.path.toList = Url.Path.text (texts.map (Percent.encode Percent.isUnreserved)) ∧
        (∀ t ∈ texts, t ≠ "." ∧ t ≠ "..") ∧
        ∃ t ∈ texts, Percent.encode Percent.isUnreserved t ≠ [] := by
    cases h with
    | endpoint c =>
        cases c with
        | newSession body =>
            have path : "/session".toList
                = Url.Path.text (["session"].map (Percent.encode Percent.isUnreserved)) := by decide
            exact ⟨["session"], path, by decide, by decide⟩
        | status =>
            have path : "/status".toList
                = Url.Path.text (["status"].map (Percent.encode Percent.isUnreserved)) := by decide
            exact ⟨["status"], path, by decide, by decide⟩
    | @session c session free =>
        refine ⟨c.texts session, ?_, Command.isDotFree_iff.1 free, "session",
          List.mem_cons_self, by decide⟩
        rw [Command.path_request, String.toList_ofList]
  refine ⟨_, path, fun s memForm => ?_, _, List.mem_map_of_mem mem, some⟩
  obtain ⟨t, memText, rfl⟩ := List.mem_map.1 memForm
  refine ⟨⟨?_, Url.isSegmentChar_form, ?_⟩, fun c => Percent.isCoded_of_mem⟩
  · exact fun c here => Percent.of_isCoded
      (p := fun c => c.toNat < 0x80 ∧ Url.Path.isPlain (UInt8.ofNat c.toNat) = true)
      (by decide) (Percent.isCoded_of_mem here)
  · rw [Bool.eq_false_iff, Ne, Url.Path.isDots_encode, not_or]
    exact plain t memText

theorem Request.IsDotFree.exists_ne_slash {r : Request} (h : r.IsDotFree) :
    ∃ c ∈ r.path.toList, c ≠ '/' := by
  obtain ⟨forms, path, sent, segment, mem, letters⟩ := h.exists_forms
  obtain ⟨c, here⟩ := List.exists_mem_of_ne_nil _ letters
  refine ⟨c, ?_, ?_⟩
  · rw [path]
    exact List.mem_flatMap.2 ⟨segment, mem, List.mem_cons_of_mem _ here⟩
  · rintro rfl
    exact absurd ((sent segment mem).2 '/' here) (by decide)

/-! ### Slashes at the end -/

namespace HttpTransport

open Url

/-- A path without the slashes at its end is a path of some of its segments. -/
theorem exists_trimSlashes_text {path : List (List Char)}
    (chars : ∀ s ∈ path, ∀ c ∈ s, c ≠ '/') :
    ∃ front, front ⊆ path ∧ trimSlashes (Path.text path) = Path.text front := by
  rw [trimSlashes_eq]
  induction path using List.reverseRecOn with
  | nil => exact ⟨[], List.Subset.refl _, rfl⟩
  | append_singleton path s ih =>
      have text : Path.text (path ++ [s]) = Path.text path ++ '/' :: s := by simp [Path.text]
      rw [text]
      cases s using List.reverseRecOn with
      | nil =>
          obtain ⟨front, inside, eq⟩ := ih fun s mem => chars s (List.mem_append_left _ mem)
          refine ⟨front, fun s mem => List.mem_append_left _ (inside mem), ?_⟩
          rw [List.rdropWhile_concat_pos _ _ _ (by decide), eq]
      | append_singleton s c =>
          have other : c ≠ '/' := chars _ List.mem_concat_self c List.mem_concat_self
          refine ⟨_, List.Subset.refl _, ?_⟩
          rw [text, ← List.cons_append, ← List.append_assoc,
            List.rdropWhile_concat_neg _ _ _ (by simpa using other)]

/-- A path with a character that is no slash is not made of the slashes at the end of another. -/
theorem ne_trimSlashes_append {path more : List Char} (some : ∃ c ∈ more, c ≠ '/') :
    path ≠ trimSlashes path ++ more := by
  intro same
  obtain ⟨c, mem, other⟩ := some
  have parts : trimSlashes path ++ path.rtakeWhile (· = '/') = trimSlashes path ++ more :=
    List.rdropWhile_append_rtakeWhile.trans same
  rw [← List.append_cancel_left parts] at mem
  have slash : decide (c = '/') = true := List.mem_rtakeWhile_imp (p := (· = '/')) mem
  exact other (of_decide_eq_true slash)

end HttpTransport

/-! ### Parts of addresses -/

namespace Url

/-- The user, the host and the port of an address, if it has them. -/
def authority? (u : Url) : Option Authority :=
  match u.place with
  | .at a _ => some a
  | _ => none

/-- The path, the query and the fragment of an address to which the path of a request is added: it
goes where the form of the address ends. -/
def extended (u : Url) (path : List Char) : List Char × Option (List Char) × Option (List Char) :=
  match u.query, u.fragment with
  | query, some fragment => (u.path, query, some (HttpTransport.trimSlashes fragment ++ path))
  | some query, none => (u.path, some (HttpTransport.trimSlashes query ++ path), none)
  | none, none => (HttpTransport.trimSlashes u.path ++ path, none, none)

/-- The path of a request is added to the path of an address exactly if neither a query nor a
fragment follows it. -/
theorem path_extended_iff {u : Url} {path : List Char} (some : ∃ c ∈ path, c ≠ '/') :
    (u.extended path).1 = HttpTransport.trimSlashes u.path ++ path
      ↔ u.query = none ∧ u.fragment = none := by
  have other : u.path ≠ HttpTransport.trimSlashes u.path ++ path :=
    HttpTransport.ne_trimSlashes_append some
  unfold extended
  cases u.query <;> cases u.fragment <;> simp [other]

end Url

/-! ### Addresses of requests -/

namespace HttpTransport

open Url

/-- A text with the path of a request after it needs no more encoding than before. -/
theorem isKept_trimSlashes_append {keep : UInt8 → Bool} (slash : keep 0x2F = true)
    (coded : ∀ n < 128, Percent.isCoded (Char.ofNat n) = true →
      (Char.ofNat n).toNat < 0x80 ∧ keep (UInt8.ofNat (Char.ofNat n).toNat) = true)
    {forms : List (List Char)} (sent : ∀ s ∈ forms, ∀ c ∈ s, Percent.isCoded c = true)
    {s : List Char} (kept : Percent.IsKept keep s) :
    Percent.IsKept keep (trimSlashes s ++ Path.text forms) := by
  refine List.forall_mem_append.2 ⟨fun c mem => ?_, ?_⟩
  · exact kept c ((List.rdropWhile_prefix (· = '/') s).subset mem)
  · exact forall_mem_text ⟨by decide, slash⟩ fun s mem c here =>
      Percent.of_isCoded (p := fun c => c.toNat < 0x80 ∧ keep (UInt8.ofNat c.toNat) = true)
        coded (sent s mem c here)

/-- The path of a request is put after the last part of an address. -/
theorem address_of_chars_eq {b : Url} {front back : List Char} (eq : b.chars = front ++ back)
    (last : ∀ c ∈ front.getLast?, c ≠ '/') (p : String) :
    address b p = ofChars (front ++ (trimSlashes back ++ p.toList)) := by
  rw [address, eq, trimSlashes_append last, List.append_assoc]

/-- An address without a path ends in a character of its authority. -/
theorem ne_slash_of_mem_getLast? {usual : Nat} {a : Authority} (h : a.IsShown usual)
    (word : List Char) : ∀ c ∈ (formOf word a [] none none).getLast?, c ≠ '/' := by
  have text : a.text ≠ [] := by
    rw [Authority.text_eq]
    exact List.append_ne_nil_of_right_ne_nil _ h.hostPort_ne_nil
  have form : formOf word a [] none none = (word ++ [':', '/', '/']) ++ a.text := by
    simp [formOf, marked, Path.text]
  rintro c mem rfl
  rw [form, List.getLast?_append_of_ne_nil _ text] at mem
  exact absurd (h.isSegmentChar_text '/' (List.mem_of_getLast? mem)) (by decide)

/-- A text ends in the last character that is put after it. -/
theorem ne_slash_of_mem_concat {front : List Char} {mark : Char} (other : mark ≠ '/') :
    ∀ c ∈ (front ++ [mark]).getLast?, c ≠ '/' := by
  intro c mem
  rw [List.getLast?_concat] at mem
  exact Option.some.inj mem ▸ other

section Below

variable {usual : Nat} {b : Url} {a : Authority} {path forms : List (List Char)}
  (h : b.IsShownAs usual a path) (shown : ∀ s ∈ forms, Path.IsShown s)
  (coded : ∀ s ∈ forms, ∀ c ∈ s, Percent.isCoded c = true) {p : String}
  (text : p.toList = Path.text forms)

include h text

include shown in
/-- Below an address that ends in its path there is a longer path. -/
theorem address_of_path (notEmpty : forms ≠ []) (query : b.query = none)
    (fragment : b.fragment = none) :
    ∃ segments, address b p = .ok ⟨b.scheme, .at a segments, none, none⟩ ∧
      Path.text segments = trimSlashes b.path ++ p.toList := by
  have noSlash : ∀ s ∈ path, ∀ c ∈ s, c ≠ '/' := by
    rintro s mem c here rfl
    exact absurd ((h.segments s mem).chars '/' here) (by decide)
  obtain ⟨front, inside, trimmed⟩ := exists_trimSlashes_text noSlash
  have cut : b.chars = formOf b.scheme a [] none none ++ Path.text path := by
    rw [h.chars_eq, query, fragment]
    simp [formOf, marked, Path.text]
  have joined : formOf b.scheme a [] none none ++ (Path.text front ++ Path.text forms)
      = formOf b.scheme a (front ++ forms) none none := by
    simp [formOf, marked, Path.text]
  have segments : ∀ s ∈ front ++ forms, Path.IsShown s :=
    List.forall_mem_append.2 ⟨fun s mem => h.segments s (inside mem), shown⟩
  have some : front ++ forms ≠ [] := List.append_ne_nil_of_right_ne_nil _ notEmpty
  have last := ne_slash_of_mem_getLast? h.authority b.scheme
  refine ⟨front ++ forms, ?_, ?_⟩
  · rw [address_of_chars_eq cut last, trimmed, text, joined, ofChars_formOf h.network h.authority
      segments (fun q none => (Option.not_mem_none q none).elim)
      fun f none => (Option.not_mem_none f none).elim, rooted_of_ne_nil some]
  · rw [Url.path, h.place, trimmed, text]
    exact List.flatMap_append

include coded

/-- Below an address that ends in its query there is a longer query. -/
theorem address_of_query {q : List Char} (query : b.query = some q) (fragment : b.fragment = none) :
    address b p = .ok ⟨b.scheme, .at a path, some (trimSlashes q ++ p.toList), none⟩ := by
  have cut : b.chars = (formOf b.scheme a path none none ++ ['?']) ++ q := by
    rw [h.chars_eq, query, fragment]
    simp [formOf, marked]
  have joined : (formOf b.scheme a path none none ++ ['?']) ++ (trimSlashes q ++ Path.text forms)
      = formOf b.scheme a path (some (trimSlashes q ++ Path.text forms)) none := by
    simp [formOf, marked]
  have kept : Percent.IsKept (isQueryByte (.network usual)) (trimSlashes q ++ Path.text forms) := by
    have own := h.query q query
    rw [isQueryByte_network] at own ⊢
    exact isKept_trimSlashes_append (by decide) (by decide) coded own
  rw [address_of_chars_eq cut (ne_slash_of_mem_concat (by decide)), text, joined,
    ofChars_formOf h.network h.authority h.segments (fun q' here => Option.some.inj here ▸ kept)
      fun f none => (Option.not_mem_none f none).elim, rooted_of_ne_nil h.path_ne_nil]

/-- Below an address that ends in its fragment there is a longer fragment. -/
theorem address_of_fragment {f : List Char} (fragment : b.fragment = some f) :
    address b p = .ok ⟨b.scheme, .at a path, b.query, some (trimSlashes f ++ p.toList)⟩ := by
  have cut : b.chars = (formOf b.scheme a path b.query none ++ ['#']) ++ f := by
    rw [h.chars_eq, fragment]
    simp [formOf, marked]
  have joined : (formOf b.scheme a path b.query none ++ ['#']) ++ (trimSlashes f ++ Path.text forms)
      = formOf b.scheme a path b.query (some (trimSlashes f ++ Path.text forms)) := by
    simp [formOf, marked]
  have kept : Percent.IsKept isFragmentByte (trimSlashes f ++ Path.text forms) :=
    isKept_trimSlashes_append (by decide) (by decide) coded (h.fragment f fragment)
  rw [address_of_chars_eq cut (ne_slash_of_mem_concat (by decide)), text, joined,
    ofChars_formOf h.network h.authority h.segments h.query
      fun f' here => Option.some.inj here ▸ kept, rooted_of_ne_nil h.path_ne_nil]

include shown in
/-- The path of a request goes where the form of the address ends. -/
theorem address_of_isShownAs (notEmpty : forms ≠ []) :
    ∃ segments query fragment,
      address b p = .ok ⟨b.scheme, .at a segments, query, fragment⟩ ∧
        (Path.text segments, query, fragment) = b.extended p.toList := by
  have whole : b.path = Path.text path := by rw [Url.path, h.place]
  unfold extended
  cases fragment : b.fragment with
  | some f =>
      refine ⟨path, b.query, _, address_of_fragment h coded text fragment, ?_⟩
      rw [whole]
  | none =>
      cases query : b.query with
      | some q =>
          refine ⟨path, _, none, address_of_query h coded text query fragment, ?_⟩
          rw [whole]
      | none =>
          obtain ⟨segments, sent, longer⟩ := address_of_path h shown text notEmpty query fragment
          refine ⟨segments, none, none, sent, ?_⟩
          rw [longer]

end Below

end HttpTransport

/-! ### Drivers that are attached to -/

/-- The address of a driver that is attached to has been read. -/
theorem DriverSettings.exists_parse_of_build {s : DriverSettings} {exists? : String → Bool}
    {d : Driver} {b : Url} (built : s.build exists? = .ok d) (attached : d.endpoint = .attach b) :
    ∃ address, s.attach = some address ∧ Url.parse address = .ok b := by
  obtain ⟨endpoint, place, built⟩ := Except.bind_eq_ok_iff.1 built
  obtain ⟨-, -, built⟩ := Except.bind_eq_ok_iff.1 built
  obtain ⟨-, -, built⟩ := Except.bind_eq_ok_iff.1 built
  obtain rfl := Except.ok.inj built
  obtain rfl : endpoint = .attach b := attached
  unfold location at place
  split at place
  next => cases place
  next => cases place
  next => split at place <;> cases place
  next address _ given =>
    split at place
    next url read =>
      cases place
      exact ⟨address, given, read⟩
    next => cases place

namespace HttpTransport

open Url

/-- A request to a driver that is attached to over HTTP always has an address, at the same user,
host and port.  It extends the last part of the address of the driver, which is the path exactly if
there is neither a query nor a fragment. -/
theorem address_attached {s : DriverSettings} {exists? : String → Bool} {d : Driver} {b : Url}
    (built : s.build exists? = .ok d) (attached : d.endpoint = .attach b)
    (scheme : b.scheme = "http".toList ∨ b.scheme = "https".toList) {r : Request}
    (free : r.IsDotFree) :
    ∃ a u, b.authority? = some a ∧ address b r.path = .ok u ∧ u.scheme = b.scheme ∧
      u.authority? = some a ∧ (u.path, u.query, u.fragment) = b.extended r.path.toList ∧
      (u.path = trimSlashes b.path ++ r.path.toList ↔ b.query = none ∧ b.fragment = none) := by
  obtain ⟨text, -, read⟩ := DriverSettings.exists_parse_of_build built attached
  obtain ⟨usual, network⟩ : ∃ usual, Kind.ofScheme b.scheme = .network usual := by
    rcases scheme with http | https
    · exact ⟨80, http ▸ rfl⟩
    · exact ⟨443, https ▸ rfl⟩
  obtain ⟨a, path, h⟩ := exists_isShownAs read network
  obtain ⟨forms, form, sent, segment, mem, -⟩ := free.exists_forms
  obtain ⟨segments, query, fragment, found, parts⟩ := address_of_isShownAs h
    (fun s mem => (sent s mem).1) (fun s mem => (sent s mem).2) form (List.ne_nil_of_mem mem)
  have authority : b.authority? = some a := by rw [authority?, h.place]
  have first : Path.text segments = (b.extended r.path.toList).1 := congrArg Prod.fst parts
  refine ⟨a, _, authority, found, rfl, rfl, parts, ?_⟩
  change Path.text segments = _ ↔ _
  rw [first, path_extended_iff free.exists_ne_slash]

/-- The address of a driver behind a prefix, which ends in several slashes. -/
def hub : Url where
  scheme := "http".toList
  place := .at ⟨"u".toList, "p".toList, localDriver.1, localDriver.2⟩
    ["wd".toList, "hub".toList, [], []]

/-- The prefix is kept, and so are the user and the password. -/
theorem address_attached_hub :
    ∃ d u, DriverSettings.build { attach := some "http://u:p@[::1]:4444/wd/hub//" } (fun _ => false)
        = .ok d ∧ d.endpoint = .attach hub ∧ hub.scheme = "http".toList ∧
      ((Command.getElementText ⟨"a/b"⟩).request ⟨"s1"⟩).IsDotFree ∧
      address hub ((Command.getElementText ⟨"a/b"⟩).request ⟨"s1"⟩).path = .ok u ∧
      u.authority? = hub.authority? ∧
      u.path = "/wd/hub/session/s1/element/a%2Fb/text".toList := by
  have free : ((Command.getElementText ⟨"a/b"⟩).request ⟨"s1"⟩).IsDotFree :=
    .session (Command.isDotFree_iff.2 (by decide))
  have built : DriverSettings.build { attach := some "http://u:p@[::1]:4444/wd/hub//" }
      (fun _ => false) = .ok ⟨.attach hub, .ofFirefox, .ofMilliseconds 120000⟩ := rfl
  obtain ⟨a, u, authority, sent, -, same, -, path⟩ := address_attached built rfl (.inl rfl) free
  refine ⟨_, u, built, rfl, rfl, free, sent, same.trans authority.symm, ?_⟩
  rw [path.2 ⟨rfl, rfl⟩]
  decide

/-- The address of a driver with a fragment. -/
def anchored : Url := { httpAt localDriver [[]] with fragment := some "x".toList }

/-- Below an address with a fragment the path of a request is lost. -/
theorem address_below_anchored :
    ∃ d u, DriverSettings.build { attach := some "http://[::1]:4444/#x" } (fun _ => false) = .ok d ∧
      d.endpoint = .attach anchored ∧ anchored.scheme = "http".toList ∧
      (Command.getCurrentUrl.request ⟨"s1"⟩).IsDotFree ∧
      address anchored (Command.getCurrentUrl.request ⟨"s1"⟩).path = .ok u ∧ u.path = "/".toList ∧
      u.path ≠ trimSlashes anchored.path ++ (Command.getCurrentUrl.request ⟨"s1"⟩).path.toList :=
  ⟨_, _, rfl, rfl, rfl, .session (Command.isDotFree_iff.2 (by decide)), rfl, rfl, by decide⟩

end HttpTransport

end WebDriverClient
