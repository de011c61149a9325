import Courier.Api.Verdict
import Mathlib

/-!
# `Courier.Proofs.Api.Verdict`: which answer means what

A login is required exactly by status 403, and a call ends with a body exactly if the answer is an
envelope under status 200 (`Codec.accepts`). What the server answers otherwise is the text of an
error, which the operator is told unless somebody is logging in (`of_refused`).

A verdict says three things at once. Here they are taken apart: whether the answer is a demand to
log in (`demandsLogin`), what the call comes to otherwise (`Codec.result`), and what the operator is
told of it (`Codec.notices`). Only the last depends on whether somebody is logging in. `of_eq` puts
them together again.
-/

set_option autoImplicit false

namespace Courier

/-- Whether the answer ends a call with a body. -/
def Codec.accepts (codec : Codec) : Except TransportError Http.Response → Bool
  | .error _ => false
  | .ok r => decide (r.status = 200) && (codec.decodeEnvelope r.body).isOk

namespace Verdict

variable {codec : Codec} {authenticating : Bool} {outcome : Except TransportError Http.Response}
  {r : Http.Response} {notices : List Notice} {result : Except CallError Value}

/-- A login is required exactly by the one status that says so. -/
theorem of_eq_loginRequired_iff :
    Verdict.of codec authenticating outcome = .loginRequired ↔
      ∃ r, outcome = .ok r ∧ r.status = 403 := by
  constructor
  · intro h
    unfold Verdict.of at h
    split at h
    · exact nomatch h
    · rename_i r
      split at h
      · split at h <;> exact nomatch h
      · split at h
        case isTrue h403 => exact ⟨r, rfl, h403⟩
        case isFalse => exact nomatch h
  · rintro ⟨r, rfl, h403⟩
    simp [Verdict.of, h403]

/-- An answer with a status of its own refuses the call. -/
theorem of_refused (h200 : r.status ≠ 200) (h403 : r.status ≠ 403) :
    Verdict.of codec authenticating (.ok r) =
      .ended (if authenticating then [] else [.ofError (.refused r.status (Text.lossy r.body))])
        (.error (.refused r.status (Text.lossy r.body))) := by
  simp [Verdict.of, h200, h403]

/-- The result of a call is a body exactly if the answer is accepted. -/
theorem isOk_of_ended (h : Verdict.of codec authenticating outcome = .ended notices result) :
    result.isOk = codec.accepts outcome := by
  cases outcome with
  | error cause => cases h; rfl
  | ok r =>
    simp only [Verdict.of] at h
    by_cases h200 : r.status = 200
    · -- under status 200 the envelope decides
      rw [if_pos h200] at h
      cases hread : codec.decodeEnvelope r.body with
      | ok envelope =>
        rw [hread] at h
        cases h
        simp [Codec.accepts, h200, hread, Except.isOk, Except.toBool]
      | error cause =>
        rw [hread] at h
        cases h
        simp [Codec.accepts, hread, Except.isOk, Except.toBool]
    · -- any other status that ends the call refuses it
      rw [if_neg h200] at h
      split at h
      · cases h
      · cases h
        simp [Codec.accepts, h200, Except.isOk, Except.toBool]

/-- An answer that requires a login is not accepted. -/
theorem accepts_of_loginRequired
    (h : Verdict.of codec authenticating outcome = .loginRequired) :
    codec.accepts outcome = false := by
  obtain ⟨r, rfl, h403⟩ := of_eq_loginRequired_iff.mp h
  simp [Codec.accepts, h403]

/-- An answer does not make the operator give up. -/
theorem ne_abandoned_of_ended
    (h : Verdict.of codec authenticating outcome = .ended notices result) :
    result ≠ .error .abandoned := by
  rintro rfl
  unfold Verdict.of at h
  split at h
  · -- a lack of an answer is told by the transport
    rename_i cause
    cases cause <;> exact nomatch h
  · split at h
    · split at h <;> exact nomatch h
    · split at h <;> exact nomatch h

end Verdict

/-! ### A verdict taken apart -/

/-- Whether the answer is a demand to log in. -/
def demandsLogin : Except TransportError Http.Response → Bool
  | .error _ => false
  | .ok r => decide (r.status = 403)

namespace Codec

/-- What a call comes to when this is the last answer to it. -/
def result (codec : Codec) : Except TransportError Http.Response → Except CallError Value
  | .error cause => .error (.ofTransport cause)
  | .ok r =>
    if r.status = 200 then
      match codec.decodeEnvelope r.body with
      | .ok envelope => .ok envelope.body
      | .error cause => .error (.decode cause)
    else .error (.refused r.status (Text.lossy r.body))

/-- The warnings that come with an answer. -/
def warnings (codec : Codec) : Except TransportError Http.Response → List String
  | .error _ => []
  | .ok r =>
    if r.status = 200 then
      match codec.decodeEnvelope r.body with
      | .ok envelope => envelope.warnings
      | .error _ => []
    else []

/-- The error of an answer that the operator is told of. One that the server reports is withheld
while somebody is logging in. -/
def told? (codec : Codec) (authenticating : Bool)
    (outcome : Except TransportError Http.Response) : Option CallError :=
  match codec.result outcome with
  | .ok _ => none
  | .error e => if authenticating && e.status?.isSome then none else some e

/-- What the operator is told of an answer. -/
def notices (codec : Codec) (authenticating : Bool)
    (outcome : Except TransportError Http.Response) : List Notice :=
  (codec.warnings outcome).map (⟨.info, ·⟩) ++
    (codec.told? authenticating outcome).toList.map .ofError

variable {codec : Codec} {authenticating : Bool} {outcome : Except TransportError Http.Response}

/-- An answer is accepted if its result is a body. -/
theorem isOk_result : (codec.result outcome).isOk = codec.accepts outcome := by
  cases outcome with
  | error cause => rfl
  | ok r =>
    simp only [result, accepts]
    by_cases h200 : r.status = 200
    · rw [if_pos h200]
      cases codec.decodeEnvelope r.body with
      | ok envelope => simp [h200, Except.isOk, Except.toBool]
      | error cause => simp [Except.isOk, Except.toBool]
    · rw [if_neg h200]
      simp [h200, Except.isOk, Except.toBool]

/-- No answer makes the operator give up, and none tells that the payload has no bytes. -/
theorem result_cases (codec : Codec) (outcome : Except TransportError Http.Response) :
    (∃ body, codec.result outcome = .ok body) ∨
    (∃ cause, codec.result outcome = .error (.ofTransport cause)) ∨
    (∃ cause, codec.result outcome = .error (.decode cause)) ∨
    (∃ status text, codec.result outcome = .error (.refused status text)) := by
  cases outcome with
  | error cause => exact .inr (.inl ⟨cause, rfl⟩)
  | ok r =>
    unfold result
    dsimp only
    split
    · cases codec.decodeEnvelope r.body with
      | ok envelope => exact .inl ⟨envelope.body, rfl⟩
      | error cause => exact .inr (.inr (.inl ⟨cause, rfl⟩))
    · exact .inr (.inr (.inr ⟨_, _, rfl⟩))

/-- A demand to log in comes with nothing to tell of. -/
theorem warnings_of_demandsLogin (h : demandsLogin outcome = true) :
    codec.warnings outcome = [] := by
  cases outcome with
  | error cause => rfl
  | ok r =>
    have h403 : r.status = 403 := by simpa [demandsLogin] using h
    simp [warnings, h403]

/-- While somebody is logging in, nothing at all is told of a demand to log in. -/
theorem notices_of_demandsLogin (h : demandsLogin outcome = true) :
    codec.notices true outcome = [] := by
  have hwarnings : codec.warnings outcome = [] := warnings_of_demandsLogin h
  cases outcome with
  | error cause => exact nomatch h
  | ok r =>
    have h403 : r.status = 403 := by simpa [demandsLogin] using h
    simp [notices, hwarnings, told?, result, CallError.status?, h403]

/-- An answer that demands a login is not accepted. -/
theorem accepts_of_demandsLogin (h : demandsLogin outcome = true) :
    codec.accepts outcome = false := by
  cases outcome with
  | error cause => rfl
  | ok r =>
    have h403 : r.status = 403 := by simpa [demandsLogin] using h
    simp [accepts, h403]

end Codec

/-- A verdict is a demand to log in, or else what the operator is told and the result. -/
theorem Verdict.of_eq (codec : Codec) (authenticating : Bool)
    (outcome : Except TransportError Http.Response) :
    Verdict.of codec authenticating outcome =
      if demandsLogin outcome then .loginRequired
      else .ended (codec.notices authenticating outcome) (codec.result outcome) := by
  cases outcome with
  | error cause =>
    -- the lack of an answer is told whoever is logging in, as the server has not reported it
    have hstatus : (CallError.ofTransport cause).status? = none := by cases cause <;> rfl
    simp [Verdict.of, demandsLogin, Codec.notices, Codec.warnings, Codec.told?, Codec.result,
      hstatus]
  | ok r =>
    by_cases h200 : r.status = 200
    · cases hread : codec.decodeEnvelope r.body with
      | ok envelope =>
        simp [Verdict.of, demandsLogin, Codec.notices, Codec.warnings, Codec.told?, Codec.result,
          h200, hread]
      | error cause =>
        simp [Verdict.of, demandsLogin, Codec.notices, Codec.warnings, Codec.told?, Codec.result,
          CallError.status?, h200, hread]
    · by_cases h403 : r.status = 403
      · simp [Verdict.of, demandsLogin, h403]
      · rw [Verdict.of_refused h200 h403]
        cases authenticating <;>
          simp [demandsLogin, Codec.notices, Codec.warnings, Codec.told?, Codec.result,
            CallError.status?, h200, h403]

end Courier
