/-
**Timeouts that are saved and set again.**

A remote end keeps three limits, of which the one for scripts may be absent, and is told that with
`null`.  What is read of the limits does not tell `null` from a member that is not there, what is
sent leaves out what is not there, and what is left out stays as it is.  A script that had no limit
is therefore not freed again by setting what was read.

Main definitions:

* `Limits` — the limits that a remote end keeps, told by `toJson` and set by `overwrite`;
* `Session.KeepsLimits` — how a remote end deals with the requests for timeouts;
* `Session.setAll` — several calls that set timeouts, one after the other.

Main results:

* `Limits.overwrite_read` — setting what was read restores all limits but an absent one;
* `Session.run_setAll` — what is kept after several calls;
* `Session.restores_limits` — **what is kept after the timeouts that were read are set again**;
* `Session.not_restores_unlimited` — a remote end that does not get its limits back.
-/

import WebDriverClient.Proofs.Browsing.Teardown
import WebDriverClient.Proofs.Wire.Canonical

set_option autoImplicit false

namespace WebDriverClient

/-! ### Limits -/

/-- The limits that a remote end keeps, in milliseconds. -/
structure Limits where
  script : Option Json.Number
  pageLoad : Json.Number
  implicit : Json.Number
deriving DecidableEq

namespace Limits

/-- All three limits, as they are told. -/
def toJson (l : Limits) : Json :=
  .ofMembers [("script", l.script.elim .null .number), ("pageLoad", .number l.pageLoad),
    ("implicit", .number l.implicit)]

/-- The limit that a body gives under a key, or else the one that is kept. -/
def given (body : Json) (key : String) (kept : Json.Number) : Json.Number :=
  match body.get? key with
  | some (.number n) => n
  | _ => kept

/-- The limits after a body has been received: exactly the keys that are present count. -/
def overwrite (l : Limits) (body : Json) : Limits where
  script :=
    match body.get? "script" with
    | some .null => none
    | some (.number n) => some n
    | _ => l.script
  pageLoad := given body "pageLoad" l.pageLoad
  implicit := given body "implicit" l.implicit

/-- A number of milliseconds that is sent. -/
def sent (n : UInt64) : Json.Number := .int n.toNat

/-- Timeouts that are sent overwrite the limits that they give. -/
theorem overwrite_toJson (l : Limits) (t : Timeouts) :
    l.overwrite t.toJson =
      ⟨(t.script.map sent).or l.script, (t.pageLoad.map sent).getD l.pageLoad,
        (t.implicit.map sent).getD l.implicit⟩ := by
  have find (k : String) : t.toJson.get? k = _ := Json.get?_presentMembers k (by simp)
  simp only [overwrite, given, find]
  obtain ⟨script, pageLoad, implicit⟩ := t
  congr 1
  case e_script => cases script <;> rfl
  case e_pageLoad => cases pageLoad <;> rfl
  case e_implicit => cases implicit <;> rfl

/-- What is read of the limits are the limits, but for one that is absent. -/
theorem eq_of_read {l : Limits} {t : Timeouts} (read : Timeouts.decode l.toJson = .ok t) :
    t.script.map sent = l.script ∧ t.pageLoad.map sent = some l.pageLoad ∧
      t.implicit.map sent = some l.implicit := by
  have number {n : Option UInt64} {m : Option Json.Number}
      (h : n.map (fun n => Json.nat n.toNat) = m.map .number) : n.map sent = m := by
    cases n <;> cases m <;> cases h <;> rfl
  have same (k : String) : t.toJson.get? k = _ :=
    (congrArg (Json.get? k) (Timeouts.toJson_of_decode read)).trans
      (Json.get?_restricted Timeouts.keys _ k)
  have sends (k : String) : t.toJson.get? k = _ := Json.get?_presentMembers k (by simp)
  have tells (k : String) : l.toJson.get? k = _ := Json.get?_ofMembers k (by simp)
  have agree (k : String) := (sends k).symm.trans ((same k).trans (congrArg _ (tells k)))
  refine ⟨number ?_, number ((agree "pageLoad").trans rfl), number ((agree "implicit").trans rfl)⟩
  refine (agree "script").trans ?_
  obtain ⟨script, pageLoad, implicit⟩ := l
  cases script <;> rfl

/-- Setting what was read restores the limits, but for one that was absent. -/
theorem overwrite_read {l : Limits} {t : Timeouts} (read : Timeouts.decode l.toJson = .ok t)
    (kept : Limits) :
    kept.overwrite t.toJson = { l with script := l.script.or kept.script } := by
  obtain ⟨script, pageLoad, implicit⟩ := eq_of_read read
  rw [overwrite_toJson, script, pageLoad, implicit]
  rfl

/-- A limit of scripts that has been set since is noticed only if there was none. -/
theorem restores_iff (l : Limits) (since : Option UInt64) :
    { l with script := l.script.or (since.map sent) } = l ↔ l.script.isSome ∨ since = none := by
  obtain ⟨script, pageLoad, implicit⟩ := l
  cases script <;> cases since <;> simp

end Limits

/-! ### Remote ends that keep limits -/

variable {σ : Type}

/-- The answer is a success with this value. -/
def Answers (answer : Except Failure Response) (value : Json) : Prop :=
  ∃ r, answer = .ok r ∧ r.status = 200 ∧ r.value? = some value

theorem Answers.reply {answer : Except Failure Response} {value : Json} (h : Answers answer value)
    (command : String) (call : Call) : reply command call answer = .ok value := by
  obtain ⟨r, rfl, status, found⟩ := h
  rw [WebDriverClient.reply, Response.outcome, if_pos status, found]

namespace Session

/-- The path of the timeouts of a session. -/
def timeoutsPath (s : Session σ) : String := (Command.getTimeouts.request s.id).path

/-- The remote end keeps limits for the session.  It is asked for them in the state `now`. -/
structure KeepsLimits (s : Session σ) (limits : σ → Limits) (now : σ) : Prop where
  /-- It tells all of them and leaves them as they are. -/
  told : ∀ request : Request, request.method = .get → request.path = s.timeoutsPath →
    Answers (s.transport request now).1.outcome (limits now).toJson ∧
      limits (s.transport request now).2 = limits now
  /-- It overwrites exactly those that are present in a body. -/
  taken : ∀ (request : Request) (body : Json) (state : σ), request.method = .post →
    request.path = s.timeoutsPath → request.body = some body →
    (∃ value, Answers (s.transport request state).1.outcome value) ∧
      limits (s.transport request state).2 = (limits state).overwrite body

/-- Sets timeouts several times. -/
def setAll (s : Session σ) (changes : List (CallSite × Timeouts)) : Client σ Unit :=
  changes.forM fun change => s.setTimeouts change.1 change.2

/-- The last of the limits for scripts that are sent. -/
def lastScript (changes : List (CallSite × Timeouts)) : Option UInt64 :=
  (changes.filterMap fun change => change.2.script).getLast?

theorem lastScript_cons (change : CallSite × Timeouts) (rest : List (CallSite × Timeouts)) :
    lastScript (change :: rest) = (lastScript rest).or change.2.script := by
  rw [lastScript, List.filterMap_cons]
  cases change.2.script with
  | none => exact (Option.or_none).symm
  | some n => exact List.getLast?_cons.trans Option.or_some.symm

theorem lastScript_eq_none_iff (changes : List (CallSite × Timeouts)) :
    lastScript changes = none ↔ ∀ change ∈ changes, change.2.script = none := by
  rw [lastScript, List.getLast?_eq_none_iff, List.filterMap_eq_nil_iff]

section

variable {s : Session σ} {limits : σ → Limits} {now : σ}

/-- Setting timeouts succeeds and overwrites what they give. -/
theorem KeepsLimits.run_setTimeouts (keeps : s.KeepsLimits limits now) (context : CallSite)
    (t : Timeouts) (v : World σ) :
    ((s.setTimeouts context t).run v).outcome = .ok () ∧
      limits ((s.setTimeouts context t).run v).world.remote =
        (limits v.remote).overwrite t.toJson := by
  obtain ⟨⟨value, answer⟩, taken⟩ :=
    keeps.taken ((Command.setTimeouts t).request s.id) t.toJson v.remote rfl rfl rfl
  rw [setTimeouts, run_tell]
  exact ⟨congrArg (Except.map fun _ => ()) (answer.reply _ _), taken⟩

/-- Setting timeouts several times succeeds, and the last limit for scripts counts. -/
theorem KeepsLimits.run_setAll (keeps : s.KeepsLimits limits now)
    (changes : List (CallSite × Timeouts)) (v : World σ) :
    ((s.setAll changes).run v).outcome = .ok () ∧
      (limits ((s.setAll changes).run v).world.remote).script =
        ((lastScript changes).map Limits.sent).or (limits v.remote).script := by
  induction changes generalizing v with
  | nil => exact ⟨rfl, rfl⟩
  | cons change rest ih =>
      obtain ⟨outcome, taken⟩ := keeps.run_setTimeouts change.1 change.2 v
      have parts : s.setAll (change :: rest) =
          s.setTimeouts change.1 change.2 >>= fun _ => s.setAll rest := rfl
      rw [parts, Client.run_bind_ok outcome]
      obtain ⟨succeeds, script⟩ := ih ((s.setTimeouts change.1 change.2).run v).world
      rw [taken, Limits.overwrite_toJson] at script
      refine ⟨succeeds, script.trans ?_⟩
      rw [lastScript_cons, Option.map_or, Option.or_assoc]

/-- What is read of the timeouts is what is told, and what is kept stays. -/
theorem KeepsLimits.run_timeouts {v : World σ} (keeps : s.KeepsLimits limits v.remote) :
    (s.timeouts.run v).outcome =
      (Timeouts.decode (limits v.remote).toJson).mapError .json ∧
      limits (s.timeouts.run v).world.remote = limits v.remote := by
  obtain ⟨answer, same⟩ := keeps.told (Command.getTimeouts.request s.id) rfl rfl
  have parts : s.timeouts = s.submit (Command.getTimeouts.request s.id) (s.call .unavailable) >>=
      Client.decode Timeouts.decode := rfl
  rw [parts, Client.run_decode_bind, s.run_submit]
  exact ⟨congrArg (readAs Timeouts.decode) (answer.reply _ _), same⟩

/-- What is kept when the timeouts that were read are set again after several others. -/
theorem KeepsLimits.run_restore {v : World σ} (keeps : s.KeepsLimits limits v.remote)
    {saved : Timeouts} (read : (s.timeouts.run v).outcome = .ok saved)
    (changes : List (CallSite × Timeouts)) (context : CallSite) :
    let restored := (s.setAll changes >>= fun _ => s.setTimeouts context saved).run
      (s.timeouts.run v).world
    restored.outcome = .ok () ∧ limits restored.world.remote =
      { limits v.remote with
        script := (limits v.remote).script.or ((lastScript changes).map Limits.sent) } := by
  intro restored
  obtain ⟨told, same⟩ := keeps.run_timeouts
  obtain ⟨changed, script⟩ := keeps.run_setAll changes (s.timeouts.run v).world
  have decoded : Timeouts.decode (limits v.remote).toJson = .ok saved := by
    rw [told] at read
    cases h : Timeouts.decode (limits v.remote).toJson with
    | error e =>
        rw [h] at read
        cases read
    | ok t =>
        rw [h] at read
        cases read
        rfl
  have run : restored = _ := Client.run_bind_ok changed
  obtain ⟨outcome, kept⟩ :=
    keeps.run_setTimeouts context saved ((s.setAll changes).run (s.timeouts.run v).world).world
  rw [Limits.overwrite_read decoded, script, same] at kept
  have or_self (a b : Option Json.Number) : a.or (b.or a) = a.or b := by
    cases a <;> cases b <;> rfl
  rw [or_self] at kept
  rw [run]
  exact ⟨outcome, kept⟩

end

/-- **Setting the timeouts that were read** succeeds, whatever has been set since, and restores the
limits of pages and of the search for elements.  It restores the limit of scripts if there was one;
if there was none, the last that has been set since stays. -/
theorem restores_limits (s : Session σ) (limits : σ → Limits) (v : World σ)
    (keeps : s.KeepsLimits limits v.remote) (saved : Timeouts)
    (read : (s.timeouts.run v).outcome = .ok saved) (changes : List (CallSite × Timeouts))
    (context : CallSite) :
    let before := limits v.remote
    let restored := (s.setAll changes >>= fun _ => s.setTimeouts context saved).run
      (s.timeouts.run v).world
    restored.outcome = .ok ()
      ∧ limits restored.world.remote =
        { before with script := before.script.or ((lastScript changes).map Limits.sent) }
      ∧ (limits restored.world.remote = before ↔
        before.script.isSome ∨ ∀ change ∈ changes, change.2.script = none) := by
  intro before restored
  obtain ⟨outcome, kept⟩ := keeps.run_restore read changes context
  refine ⟨outcome, kept, ?_⟩
  rw [kept, ← lastScript_eq_none_iff]
  exact (limits v.remote).restores_iff (lastScript changes)

/-! ### Scripts without a limit -/

namespace Unlimited

/-- A success with a value. -/
def success (value : Json) : Response :=
  ⟨200, Utf8.encode (Json.ofMembers [("value", value)]).render⟩

/-- A remote end that keeps nothing but limits. -/
def transport : Transport Limits := fun request limits =>
  match request.method, request.body with
  | .post, some body => (⟨.ok (success .null), 0⟩, limits.overwrite body)
  | _, _ => (⟨.ok (success limits.toJson), 0⟩, limits)

/-- A driver that needs no halting. -/
def launcher : Launcher Limits :=
  .attached ⟨"http".toList, .at { host := .domain "localhost".toList } [[]], none, none⟩

/-- A session with the remote end. -/
def session : Session Limits := ⟨⟨⟨"s1"⟩, .unavailable⟩, transport, launcher⟩

/-- The limits that a remote end starts with: scripts are not limited. -/
def limits : Limits := ⟨none, .int 300000, .int 0⟩

/-- The timeouts that are read of them. -/
def saved : Timeouts := { pageLoad := some 300000, implicit := some 0 }

/-- Scripts are limited, and then the search for elements is. -/
def changes : List (CallSite × Timeouts) :=
  [(.unavailable, { script := some 500 }), (.unavailable, { implicit := some 10 })]

/-- The world at the start. -/
def start : World Limits := ⟨limits, 0, 0, []⟩

/-- What comes of setting the timeouts that were read after those changes. -/
def restored : Run Limits Unit :=
  (session.setAll changes >>= fun _ => session.setTimeouts .unavailable saved).run
    (session.timeouts.run start).world

/-- The limits that remain. -/
def limited : Limits := { limits with script := some (.int 500) }

theorem success_limits : success limits.toJson =
    ⟨200, [123, 34, 118, 97, 108, 117, 101, 34, 58, 123, 34, 105, 109, 112, 108, 105, 99, 105, 116,
      34, 58, 48, 44, 34, 112, 97, 103, 101, 76, 111, 97, 100, 34, 58, 51, 48, 48, 48, 48, 48, 44,
      34, 115, 99, 114, 105, 112, 116, 34, 58, 110, 117, 108, 108, 125, 125]⟩ := by
  rw [success, Response.mk.injEq]
  exact ⟨rfl, by decide +kernel⟩

theorem success_null :
    success .null = ⟨200, [123, 34, 118, 97, 108, 117, 101, 34, 58, 110, 117, 108, 108, 125]⟩ := by
  rw [success, Response.mk.injEq]
  exact ⟨rfl, by decide +kernel⟩

theorem answers_limits : Answers (.ok (success limits.toJson)) limits.toJson := by
  rw [success_limits]
  exact ⟨_, rfl, rfl, by rfl⟩

theorem answers_null : Answers (.ok (success .null)) .null := by
  rw [success_null]
  exact ⟨_, rfl, rfl, by rfl⟩

theorem keepsLimits : session.KeepsLimits (fun limits => limits) limits where
  told := by
    intro request get _
    have answer : session.transport request limits = (⟨.ok (success limits.toJson), 0⟩, limits) := by
      simp only [session, transport, get]
    rw [answer]
    exact ⟨answers_limits, rfl⟩
  taken := by
    intro request body state post _ given
    have answer : session.transport request state =
        (⟨.ok (success .null), 0⟩, state.overwrite body) := by
      simp only [session, transport, post, given]
    rw [answer]
    exact ⟨⟨_, answers_null⟩, rfl⟩

theorem read_limits : (session.timeouts.run start).outcome = .ok saved := by
  rw [(keepsLimits.run_timeouts (v := start)).1]
  rfl

theorem limited_eq :
    { limits with script := limits.script.or ((lastScript changes).map Limits.sent) } = limited := by
  have last : lastScript changes = some 500 := by decide
  rw [last]
  decide

end Unlimited

open Unlimited in
/-- The limits that were read are not restored: scripts stay limited. -/
theorem not_restores_unlimited :
    ¬ ∀ (σ : Type) (s : Session σ) (limits : σ → Limits) (v : World σ),
      s.KeepsLimits limits v.remote → ∀ saved, (s.timeouts.run v).outcome = .ok saved →
        ∀ (changes : List (CallSite × Timeouts)) (context : CallSite),
          limits ((s.setAll changes >>= fun _ => s.setTimeouts context saved).run
            (s.timeouts.run v).world).world.remote = limits v.remote := by
  intro restores
  have same := restores Limits session (fun limits => limits) start keepsLimits saved
    read_limits changes .unavailable
  obtain ⟨-, kept⟩ := keepsLimits.run_restore (v := start) read_limits changes
    .unavailable
  have unlimited : limited = limits := limited_eq.symm.trans (kept.symm.trans same)
  exact absurd unlimited (by decide)

open Unlimited in
/-- All limits but that of scripts are restored, and scripts stay limited. -/
theorem restores_limits_unlimited :
    session.KeepsLimits (fun limits => limits) start.remote
      ∧ (session.timeouts.run start).outcome = .ok saved
      ∧ restored.outcome = .ok ()
      ∧ restored.world.remote = limited := by
  obtain ⟨outcome, kept, -⟩ := restores_limits session (fun limits => limits) start keepsLimits saved
    read_limits changes .unavailable
  rw [restored]
  exact ⟨keepsLimits, read_limits, outcome, kept.trans limited_eq⟩

end Session

end WebDriverClient
