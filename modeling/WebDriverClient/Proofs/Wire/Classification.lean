/-
**What a response stands for.**

Every response is a success, an error of the remote end or a bad response, and which of them it is
depends on its status and on the tree of its body.  A success has status 200 and an envelope with a
value; an error has a status from 400 to 599 and an envelope with an error body, all of which is
passed on; anything else is a bad response.  Members that an envelope or an error body does not know
make no difference.  Either may come as an array of its members, which is a success too if the
status says so.

Main definitions:

* `Response.Envelops`, `Response.IsSuccess` — the value in the envelope of a body;
* `ErrorBody.Stands`, `Response.IsError` — the error body in the envelope of a body;
* `ProtocolError.Reports`, `ErrorBody.report` — the error that passes an error body on.

Main results:

* `Response.outcome_cases` — the classes of responses and the outcome in each;
* `Response.outcome_eq_ok_iff`, `Response.outcome_eq_protocol_iff`, `Response.outcome_eq_bad` — which
  responses are in each class;
* `Response.outcome_spec` — **every response is classified by its status and its body**.
-/

import WebDriverClient.Proofs.Wire.Records

set_option autoImplicit false

namespace WebDriverClient

open Json (Written)
open Json.Written (IsRecord Extends keyed record?_eq_some_iff isRecord_of_extends
  not_isRecord_of_repeated)

/-! ### Error bodies -/

namespace ErrorBody

/-- The members of an error body. -/
def keys : List String := ["error", "message", "stacktrace", "data"]

/-- A text that may be missing or `null`. -/
inductive StandsText : Option Written → Option String → Prop where
  | missing : StandsText none none
  | null : StandsText (some .null) none
  | text {inner : List UInt8} {s : String} (read : Written.text? inner = some s) :
      StandsText (some (.string inner)) (some s)

/-- A value that may be missing or `null`. -/
inductive StandsData : Option Written → Option Json → Prop where
  | missing : StandsData none none
  | null : StandsData (some .null) none
  /-- It is another value, which stands inside two containers. -/
  | value {w : Written} {v : Json} (other : w ≠ .null)
      (read : w.value? (Json.maxDepth - 2) = some v) : StandsData (some w) (some v)

/-- The tree is an error body that says this. -/
inductive Stands : Written → ErrorBody → Prop where
  /-- Its members are a text and three more, which may be missing or `null`. -/
  | record {w : Written} {error : List UInt8} {message stacktrace data : Option Written}
      {body : ErrorBody}
      (members : IsRecord keys w [some (.string error), message, stacktrace, data])
      (errorText : Written.text? error = some body.error)
      (messageText : StandsText message body.message)
      (stacktraceText : StandsText stacktrace body.stacktrace)
      (dataValue : StandsData data body.data) : Stands w body

theorem optionalText?_eq_some_iff {w : Option Written} {s : Option String} :
    Written.optionalText? w = some s ↔ StandsText w s := by
  constructor
  · intro h
    match w, h with
    | none, h => exact Option.some.inj h ▸ .missing
    | some .null, h => exact Option.some.inj h ▸ .null
    | some (.string inner), h =>
        obtain ⟨text, read, rfl⟩ := Option.map_eq_some_iff.1 h
        exact .text read
  · rintro (_ | _ | read)
    · rfl
    · rfl
    · exact Option.map_eq_some_iff.2 ⟨_, read, rfl⟩

theorem data?_eq_some_iff {w : Option Written} {v : Option Json} :
    data? w = some v ↔ StandsData w v := by
  have present {w : Written} (other : w ≠ .null) :
      data? (some w) = (w.value? (Json.maxDepth - 2)).map some := by
    cases w with
    | null => exact absurd rfl other
    | _ => rfl
  constructor
  · intro h
    cases w with
    | none => exact Option.some.inj h ▸ .missing
    | some w =>
        by_cases isNull : w = .null
        · subst isNull
          exact Option.some.inj h ▸ .null
        · rw [present isNull] at h
          obtain ⟨value, read, rfl⟩ := Option.map_eq_some_iff.1 h
          exact .value isNull read
  · rintro (_ | _ | ⟨other, read⟩)
    · rfl
    · rfl
    · rw [present other, read]
      rfl

theorem ofWritten?_eq_some_iff {w : Written} {body : ErrorBody} :
    ofWritten? w = some body ↔ Stands w body := by
  constructor
  · intro h
    unfold ofWritten? at h
    split at h
    next error message stacktrace data members =>
      split at h
      next errorText messageText stacktraceText dataValue =>
        obtain rfl := Option.some.inj h
        exact .record (record?_eq_some_iff.1 members) errorText
          (optionalText?_eq_some_iff.1 messageText) (optionalText?_eq_some_iff.1 stacktraceText)
          (data?_eq_some_iff.1 dataValue)
      next => nomatch h
    next => nomatch h
  · rintro ⟨members, errorText, messageText, stacktraceText, dataValue⟩
    have read := record?_eq_some_iff.2 members
    rw [keys] at read
    rw [ofWritten?, read]
    simp only [errorText, optionalText?_eq_some_iff.2 messageText,
      optionalText?_eq_some_iff.2 stacktraceText, data?_eq_some_iff.2 dataValue]

end ErrorBody

/-! ### Bodies -/

namespace Response

/-- The body is an envelope in which this tree stands. -/
def Envelops (r : Response) (v : Written) : Prop :=
  ∃ w, Written.parse? r.body = some w ∧ IsRecord ["value"] w [some v]

/-- The body is an envelope of this value, which stands inside one container. -/
def IsSuccess (r : Response) (v : Json) : Prop :=
  ∃ w, r.Envelops w ∧ w.value? (Json.maxDepth - 1) = some v

/-- The body is an envelope of this error body. -/
def IsError (r : Response) (body : ErrorBody) : Prop := ∃ w, r.Envelops w ∧ ErrorBody.Stands w body

theorem envelope?_eq_some_iff {w v : Written} :
    w.envelope? = some v ↔ IsRecord ["value"] w [some v] := by
  rw [← record?_eq_some_iff]
  unfold Written.envelope?
  constructor
  · intro h
    split at h
    next value read => exact Option.some.inj h ▸ read
    next => nomatch h
  · intro h
    rw [h]

theorem value?_eq_some_iff {r : Response} {v : Json} : r.value? = some v ↔ r.IsSuccess v := by
  unfold value? IsSuccess Envelops
  constructor
  · intro h
    split at h
    next => nomatch h
    next w parsed =>
      split at h
      next => nomatch h
      next inner envelope =>
        exact ⟨inner, ⟨w, parsed, envelope?_eq_some_iff.1 envelope⟩, h⟩
  · rintro ⟨inner, ⟨w, parsed, envelope⟩, read⟩
    simp only [parsed, envelope?_eq_some_iff.2 envelope, read]

theorem errorBody?_eq_some_iff {r : Response} {body : ErrorBody} :
    r.errorBody? = some body ↔ r.IsError body := by
  unfold errorBody? IsError Envelops
  constructor
  · intro h
    split at h
    next => nomatch h
    next w parsed =>
      split at h
      next => nomatch h
      next inner envelope =>
        exact ⟨inner, ⟨w, parsed, envelope?_eq_some_iff.1 envelope⟩,
          ErrorBody.ofWritten?_eq_some_iff.1 h⟩
  · rintro ⟨inner, ⟨w, parsed, envelope⟩, stands⟩
    simp only [parsed, envelope?_eq_some_iff.2 envelope, ErrorBody.ofWritten?_eq_some_iff.2 stands]

/-! ### Members that make no difference -/

/-- An envelope with one member more is an envelope of the same. -/
theorem envelops_of_extends {r r' : Response} {w w' : Written}
    (parsed : Written.parse? r.body = some w) (parsed' : Written.parse? r'.body = some w')
    (more : Extends ["value"] w w') (v : Written) : r.Envelops v ↔ r'.Envelops v := by
  have only (r : Response) {w : Written} (parsed : Written.parse? r.body = some w) :
      r.Envelops v ↔ IsRecord ["value"] w [some v] := by
    constructor
    · rintro ⟨w', parsed', envelope⟩
      obtain rfl := Option.some.inj (parsed.symm.trans parsed')
      exact envelope
    · exact fun envelope => ⟨w, parsed, envelope⟩
  rw [only r parsed, only r' parsed', isRecord_of_extends more]

/-- A body is an envelope of one tree at most. -/
theorem eq_of_envelops {r : Response} {v v' : Written} (h : r.Envelops v) (h' : r.Envelops v') :
    v = v' := by
  obtain ⟨w, parsed, envelope⟩ := h
  obtain ⟨w', parsed', envelope'⟩ := h'
  obtain rfl := Option.some.inj (parsed.symm.trans parsed')
  have same := (record?_eq_some_iff.2 envelope).symm.trans (record?_eq_some_iff.2 envelope')
  exact Option.some.inj (List.cons.inj (Option.some.inj same)).1

/-- An error body with one member more says the same. -/
theorem stands_of_extends {w w' : Written} (more : Extends ErrorBody.keys w w')
    (body : ErrorBody) : ErrorBody.Stands w body ↔ ErrorBody.Stands w' body := by
  constructor
  · rintro ⟨members, errorText, messageText, stacktraceText, dataValue⟩
    exact .record ((isRecord_of_extends more _).1 members) errorText messageText stacktraceText
      dataValue
  · rintro ⟨members, errorText, messageText, stacktraceText, dataValue⟩
    exact .record ((isRecord_of_extends more _).2 members) errorText messageText stacktraceText
      dataValue

end Response

/-! ### Errors -/

/-- The error passes on what the error body says, the status of the response and the call. -/
structure ProtocolError.Reports (e : ProtocolError) (body : ErrorBody) (status : UInt16)
    (command : String) (call : Call) : Prop where
  /-- The code is that of the word for the error, which is kept if the table does not have it. -/
  code : e.code = .ofText body.error
  status : e.status = status
  /-- A message that is missing is empty. -/
  message : e.message = body.message.getD ""
  stackTrace : e.stackTrace = body.stacktrace
  data : e.data = body.data
  context : e.context = call.context
  origin : e.origin = call.origin
  invoker : e.invoker = command

theorem ErrorCode.ofText_eq_noSuchElement_iff {word : String} :
    ofText word = noSuchElement ↔ word = "no such element" := by
  constructor
  · intro h
    have text := text_ofText word
    rw [h] at text
    exact text.symm
  · rintro rfl
    rfl

namespace ProtocolError

variable {e : ProtocolError} {body : ErrorBody} {status : UInt16} {command : String} {call : Call}

/-- The wire form of the code is the word for the error. -/
theorem Reports.text_code (h : e.Reports body status command call) : e.code.text = body.error := by
  rw [h.code, ErrorCode.text_ofText]

/-- A wait goes on exactly after the errors of which the word says that no element matches. -/
theorem Reports.isRetryable_iff (h : e.Reports body status command call) :
    (Failure.protocol e).isRetryable = true ↔ body.error = "no such element" := by
  rw [← ErrorCode.ofText_eq_noSuchElement_iff, ← h.code]
  simp [Failure.isRetryable, Failure.isNoSuchElement, Failure.code?]

end ProtocolError

/-! ### Outcomes -/

/-- The error that passes an error body on. -/
def ErrorBody.report (body : ErrorBody) (status : UInt16) (command : String) (call : Call) :
    ProtocolError :=
  ⟨.ofText body.error, status, body.message.getD "", body.stacktrace, body.data, call.context,
    call.origin, command⟩

theorem ErrorBody.reports_iff {body : ErrorBody} {status : UInt16} {command : String} {call : Call}
    {e : ProtocolError} :
    e.Reports body status command call ↔ e = body.report status command call := by
  constructor
  · rintro ⟨code, status, message, trace, data, context, origin, invoker⟩
    rw [report, ← code, ← status, ← message, ← trace, ← data, ← context, ← origin, ← invoker]
  · rintro rfl
    exact ⟨rfl, rfl, rfl, rfl, rfl, rfl, rfl, rfl⟩

namespace Response

variable (r : Response) (command : String) (call : Call)

/-- The status says that the response is an error. -/
def HasErrorStatus (r : Response) : Prop := 400 ≤ r.status ∧ r.status ≤ 599

theorem HasErrorStatus.ne_success {r : Response} (h : r.HasErrorStatus) : r.status ≠ 200 := by
  intro success
  rw [HasErrorStatus, success] at h
  exact absurd h (by decide)

/-- The classes of responses, with the outcome in each: one of the three it is. -/
theorem outcome_cases :
    (∃ v, (r.status = 200 ∧ r.IsSuccess v) ∧ r.outcome command call = .ok v)
      ∨ (∃ body, (r.HasErrorStatus ∧ r.IsError body)
          ∧ r.outcome command call = .error (.protocol (body.report r.status command call)))
      ∨ ((∀ v, ¬ (r.status = 200 ∧ r.IsSuccess v))
          ∧ (∀ body, ¬ (r.HasErrorStatus ∧ r.IsError body))
          ∧ r.outcome command call
              = .error (.badResponse r.status (Utf8.decodeLossy r.body))) := by
  simp only [← value?_eq_some_iff, ← errorBody?_eq_some_iff]
  by_cases success : r.status = 200
  · -- No status is both a success and an error.
    have noError (body : ErrorBody) : ¬ (r.HasErrorStatus ∧ r.errorBody? = some body) :=
      fun h => h.1.ne_success success
    cases read : r.value? with
    | some v =>
        have outcome : r.outcome command call = .ok v := by
          rw [outcome, if_pos success, read]
        exact Or.inl ⟨v, ⟨success, rfl⟩, outcome⟩
    | none =>
        have outcome : r.outcome command call = .error r.bad := by
          rw [outcome, if_pos success, read]
        exact Or.inr (Or.inr ⟨fun v h => (nomatch h.2), noError, outcome⟩)
  · have noSuccess (v : Json) : ¬ (r.status = 200 ∧ r.value? = some v) := fun h => success h.1
    by_cases failure : 400 ≤ r.status ∧ r.status ≤ 599
    · cases read : r.errorBody? with
      | some body =>
          have outcome : r.outcome command call
              = .error (.protocol (body.report r.status command call)) := by
            rw [outcome, if_neg success, if_pos failure, read]
            rfl
          exact Or.inr (Or.inl ⟨body, ⟨failure, rfl⟩, outcome⟩)
      | none =>
          have outcome : r.outcome command call = .error r.bad := by
            rw [outcome, if_neg success, if_pos failure, read]
          exact Or.inr (Or.inr ⟨noSuccess, fun body h => (nomatch h.2), outcome⟩)
    · have outcome : r.outcome command call = .error r.bad := by
        rw [outcome, if_neg success, if_neg failure]
      exact Or.inr (Or.inr ⟨noSuccess, fun body h => failure h.1, outcome⟩)

theorem outcome_eq_ok_iff (v : Json) :
    r.outcome command call = .ok v ↔ r.status = 200 ∧ r.IsSuccess v := by
  rcases outcome_cases r command call with
    ⟨v', ⟨status, success⟩, outcome⟩ | ⟨body, ⟨failure, -⟩, outcome⟩ | ⟨noSuccess, -, outcome⟩
  all_goals rw [outcome]
  · constructor
    · intro h
      exact Except.ok.inj h ▸ ⟨status, success⟩
    · rintro ⟨-, here⟩
      have same := (value?_eq_some_iff.2 success).symm.trans (value?_eq_some_iff.2 here)
      rw [Option.some.inj same]
  · exact ⟨fun h => (nomatch h), fun h => absurd h.1 failure.ne_success⟩
  · exact ⟨fun h => (nomatch h), fun h => absurd h (noSuccess v)⟩

theorem outcome_eq_protocol_iff (e : ProtocolError) :
    r.outcome command call = .error (.protocol e)
      ↔ r.HasErrorStatus ∧ ∃ body, r.IsError body ∧ e.Reports body r.status command call := by
  simp only [ErrorBody.reports_iff]
  rcases outcome_cases r command call with
    ⟨v, ⟨status, -⟩, outcome⟩ | ⟨body, ⟨failure, isError⟩, outcome⟩ | ⟨-, noError, outcome⟩
  all_goals rw [outcome]
  · exact ⟨fun h => (nomatch h), fun h => absurd status h.1.ne_success⟩
  · constructor
    · intro h
      exact ⟨failure, body, isError, (Failure.protocol.inj (Except.error.inj h)).symm⟩
    · rintro ⟨-, body', here, rfl⟩
      have same := (errorBody?_eq_some_iff.2 isError).symm.trans (errorBody?_eq_some_iff.2 here)
      rw [Option.some.inj same]
  · refine ⟨fun h => (nomatch h), ?_⟩
    rintro ⟨failure, body, isError, -⟩
    exact absurd ⟨failure, isError⟩ (noError body)

/-- A response that is neither a success nor an error of the remote end. -/
theorem outcome_eq_bad (noSuccess : ∀ v, ¬ (r.status = 200 ∧ r.IsSuccess v))
    (noError : ∀ body, ¬ (r.HasErrorStatus ∧ r.IsError body)) :
    r.outcome command call = .error (.badResponse r.status (Utf8.decodeLossy r.body)) := by
  rcases outcome_cases r command call with
    ⟨v, success, -⟩ | ⟨body, failure, -⟩ | ⟨-, -, outcome⟩
  · exact absurd success (noSuccess v)
  · exact absurd failure (noError body)
  · exact outcome

/-- An envelope has one value, and an error body has each of its members once. -/
theorem outcome_of_repeated {members : List (List UInt8 × Written)} :
    (Written.parse? r.body = some (.object members) → 1 < (keyed "value" members).length →
      r.outcome command call = .error (.badResponse r.status (Utf8.decodeLossy r.body)))
    ∧ ∀ k ∈ ErrorBody.keys, r.Envelops (.object members) → 1 < (keyed k members).length →
      r.status ≠ 200 →
      r.outcome command call = .error (.badResponse r.status (Utf8.decodeLossy r.body)) := by
  constructor
  · intro parsed twice
    have empty (v : Written) : ¬ r.Envelops v := by
      rintro ⟨w, parsed', envelope⟩
      obtain rfl := Option.some.inj (parsed.symm.trans parsed')
      exact not_isRecord_of_repeated List.mem_cons_self twice _ envelope
    exact outcome_eq_bad r command call (fun v ⟨_, w, envelope, _⟩ => empty w envelope)
      fun body ⟨_, w, envelope, _⟩ => empty w envelope
  · intro k mem envelope twice other
    refine outcome_eq_bad r command call (fun v h => other h.1) ?_
    rintro body ⟨-, w, envelope', ⟨isRecord, -⟩⟩
    obtain rfl := eq_of_envelops envelope envelope'
    exact not_isRecord_of_repeated mem twice _ isRecord

/-- A response is a success exactly when its status is 200 and its body is an envelope of a value,
an error of the remote end exactly when its status is from 400 to 599 and its body is an envelope
of an error body, which the error reports, and a bad response otherwise.  A wait goes on exactly
after the errors of which the word is that no element matches.  Unknown members make no difference,
and known members must not come twice. -/
theorem outcome_spec :
    (∀ v, r.outcome command call = .ok v ↔ r.status = 200 ∧ r.IsSuccess v)
    ∧ (∀ e, r.outcome command call = .error (.protocol e)
        ↔ r.HasErrorStatus ∧ ∃ body, r.IsError body ∧ e.Reports body r.status command call)
    ∧ (∀ e body, ProtocolError.Reports e body r.status command call →
        e.code.text = body.error
          ∧ ((Failure.protocol e).isRetryable = true ↔ body.error = "no such element"))
    ∧ ((∀ v, ¬ (r.status = 200 ∧ r.IsSuccess v)) →
        (∀ body, ¬ (r.HasErrorStatus ∧ r.IsError body)) →
        r.outcome command call = .error (.badResponse r.status (Utf8.decodeLossy r.body)))
    ∧ (∀ (r' : Response) (w w' : Written), Written.parse? r.body = some w →
        Written.parse? r'.body = some w' → Extends ["value"] w w' →
        (∀ v, r.IsSuccess v ↔ r'.IsSuccess v) ∧ ∀ body, r.IsError body ↔ r'.IsError body)
    ∧ (∀ (r' : Response) (w w' : Written), r.Envelops w → r'.Envelops w' →
        Extends ErrorBody.keys w w' → ∀ body, r.IsError body ↔ r'.IsError body)
    ∧ ∀ members : List (List UInt8 × Written),
        (Written.parse? r.body = some (.object members) → 1 < (keyed "value" members).length →
          r.outcome command call = .error (.badResponse r.status (Utf8.decodeLossy r.body)))
        ∧ ∀ k ∈ ErrorBody.keys, r.Envelops (.object members) → 1 < (keyed k members).length →
          r.status ≠ 200 →
          r.outcome command call = .error (.badResponse r.status (Utf8.decodeLossy r.body)) := by
  refine ⟨outcome_eq_ok_iff r command call, outcome_eq_protocol_iff r command call,
    fun e body h => ⟨h.text_code, h.isRetryable_iff⟩, outcome_eq_bad r command call, ?_, ?_,
    fun members => outcome_of_repeated r command call⟩
  · intro r' w w' parsed parsed' more
    have same := envelops_of_extends parsed parsed' more
    constructor
    · exact fun v => exists_congr fun inner => and_congr_left' (same inner)
    · exact fun body => exists_congr fun inner => and_congr_left' (same inner)
  · intro r' w w' envelope envelope' more body
    have only (r : Response) {w : Written} (envelope : r.Envelops w) :
        r.IsError body ↔ ErrorBody.Stands w body := by
      constructor
      · rintro ⟨w', there, stands⟩
        exact eq_of_envelops there envelope ▸ stands
      · exact fun stands => ⟨w, envelope, stands⟩
    rw [only r envelope, only r' envelope', stands_of_extends more]

/-- An array of one value is taken for an envelope, though it has no member `value`. -/
theorem outcome_of_array :
    (Response.mk 200 (Utf8.encode "[5]")).outcome "find element" ⟨.driver, .unavailable⟩
        = .ok (.int 5)
      ∧ ∀ members, Written.parse? (Utf8.encode "[5]") ≠ some (.object members) := by
  have parsed : Written.parse? (Utf8.encode "[5]")
      = some (.array [.number ⟨false, [0x35], none, none⟩]) := rfl
  refine ⟨rfl, fun members h => ?_⟩
  rw [parsed] at h
  nomatch h

end Response

end WebDriverClient
