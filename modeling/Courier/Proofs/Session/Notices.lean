import Courier.Proofs.Session.Play

/-!
# `Courier.Proofs.Session.Notices`: what the operator is told in the course of a dispatch

Of a dispatch that is alone the operator is told each warning that comes with an answer, and each
answer that got lost or cannot be read, be it one to the request or to a login. An error that the
server reports is another matter. Out of a dialog it is the dialog that tells it, and not a notice.
As the answer to the request it is told, unless the call logs in by itself or has been asked to
before.

The last of these depends on the mark of the session, which each login clears, and which is set
again before the request is sent again. Here that is behind us: the course of a dispatch says under
which mark each answer has come (`Errand.filterMap_courseEvents`), so what is left is to sort what
the operator is told of each of them.

* `Errand.play_notices`: the errors and the warnings of a whole dispatch, in order.
-/

set_option autoImplicit false

namespace Courier

/-- There was no answer, or none that can be read. -/
def CallError.isLoss : CallError → Bool
  | .transport _ => true
  | .body _ => true
  | .decode _ => true
  | _ => false

/-- The text that the operator is told, of notices of one kind. -/
def Event.told? (kind : Notice.Kind) : Event → Option String
  | .notice _ _ told => if told.kind = kind then some told.text else none
  | _ => none

namespace Codec

/-- The error of an answer that got lost or cannot be read. -/
def loss? (codec : Codec) (outcome : Except TransportError Http.Response) : Option CallError :=
  match codec.result outcome with
  | .ok _ => none
  | .error cause => if cause.isLoss then some cause else none

/-- While somebody is logging in, the operator is told of losses only. -/
theorem told?_true (codec : Codec) (outcome : Except TransportError Http.Response) :
    codec.told? true outcome = codec.loss? outcome := by
  unfold told? loss?
  obtain ⟨body, h⟩ | ⟨cause, h⟩ | ⟨cause, h⟩ | ⟨status, text, h⟩ := codec.result_cases outcome
  · rw [h]
  · rw [h]
    cases cause <;> rfl
  · rw [h]
    rfl
  · rw [h]
    rfl

end Codec

namespace Course

variable {c : Course} {d : Dispatcher} {outcome : Except TransportError Http.Response}

/-- A course that ends in an answer has the result that the codec reads from it. -/
theorem result?_of_answer? (hanswer : c.answer? = some outcome) (codec : Codec) :
    c.result? codec = some (codec.result outcome) := by
  obtain ⟨rounds, last⟩ := c
  cases last with
  | unanswered => exact nomatch hanswer
  | unattended demand => exact nomatch hanswer
  | inDialog demand failed stop => exact nomatch hanswer
  | answered last =>
    cases hanswer
    rfl

/-- A course that has ended without an answer is one that the operator has given up. -/
theorem result?_of_unanswered (hanswer : c.answer? = none) (codec : Codec) :
    c.result? codec = none ∨ c.result? codec = some (.error .abandoned) := by
  obtain ⟨rounds, last⟩ := c
  cases last with
  | unanswered => exact .inl rfl
  | answered outcome => exact nomatch hanswer
  | unattended demand => exact .inr rfl
  | inDialog demand failed stop =>
    cases stop with
    | asking => exact .inl rfl
    | dismissed => exact .inr rfl
    | loggingIn entered => exact .inl rfl

/-- The answer that ends a dispatch has been preceded by a demand to log in exactly if there has
been a round. -/
theorem any_demandsLogin (h : c.Fits d) (hanswer : c.answer? = some outcome) :
    c.outcomes.any demandsLogin = !c.rounds.isEmpty := by
  obtain ⟨rounds, last⟩ := c
  cases last with
  | unanswered => exact nomatch hanswer
  | unattended demand => exact nomatch hanswer
  | inDialog demand failed stop => exact nomatch hanswer
  | answered last =>
    cases rounds with
    | nil =>
      have hlast : demandsLogin last = false := h.last
      simp [outcomes, Last.outcomes, hlast]
    | cons r rounds =>
      have hdemand : demandsLogin r.demand = true := (h.rounds r List.mem_cons_self).demand
      simp [outcomes, Round.outcomes, hdemand]

/-- The warnings come with logins and with the answer that ends the dispatch, as demands to log in
come without. -/
theorem warnings_outcomes (h : c.Fits d) (codec : Codec) :
    c.outcomes.flatMap codec.warnings =
      c.attempts.flatMap (fun a => codec.warnings a.outcome) ++
        c.answer?.toList.flatMap codec.warnings := by
  have hattempts : ∀ as : List Attempt, (Attempt.outcomes as).flatMap codec.warnings =
      as.flatMap fun a => codec.warnings a.outcome := by
    intro as
    rw [Attempt.outcomes, List.flatMap_map]
  obtain ⟨rounds, last⟩ := c
  have hrounds : (rounds.flatMap (·.outcomes)).flatMap codec.warnings =
      (rounds.flatMap fun r => r.failed ++ [r.login]).flatMap fun a =>
        codec.warnings a.outcome := by
    rw [List.flatMap_assoc, List.flatMap_assoc]
    -- the demand that opens a round carries no warnings
    refine List.flatMap_congr fun r hr => ?_
    rw [Round.outcomes, List.flatMap_cons, hattempts,
      Codec.warnings_of_demandsLogin (h.rounds r hr).demand, List.nil_append]
  have hlast := h.last
  rw [outcomes, attempts, List.flatMap_append, List.flatMap_append, hrounds, List.append_assoc]
  refine congrArg (_ ++ ·) ?_
  cases last with
  | unanswered => rfl
  | answered outcome => rfl
  | unattended demand =>
    simp [Last.outcomes, answer?, Codec.warnings_of_demandsLogin hlast.1]
  | inDialog demand failed stop =>
    simp [Last.outcomes, answer?, hattempts, Codec.warnings_of_demandsLogin hlast.1]

end Course

namespace Errand

variable {e : Errand} {post : Credentials → Http.Request} {request : Http.Request}

/-- The error that a course has ended with, if it is one that the operator is told of. One that the
server reports is told only if nothing about the call is a login. -/
def ownError? (e : Errand) (c : Course) : Option CallError :=
  match c.result? e.dispatcher.codec with
  | some (.error cause) =>
    if cause.isLoss ||
        (cause.status?.isSome && !e.authenticates && !c.outcomes.any demandsLogin) then
      some cause
    else none
  | _ => none

/-- The errors that the operator is told of in a course: of the logins those that got lost, and
then that of the dispatch itself. -/
def errorTexts (e : Errand) (c : Course) : List String :=
  (c.attempts.filterMap fun a => e.dispatcher.codec.loss? a.outcome).map (·.message) ++
    (e.ownError? c).toList.map (·.message)

/-- The warnings that the operator is told in a course: those of all answers. -/
def warningTexts (e : Errand) (c : Course) : List String :=
  c.outcomes.flatMap e.dispatcher.codec.warnings

/-- One error at most is told of an answer. -/
theorem errors_tells (authenticating : Bool) (outcome : Except TransportError Http.Response) :
    (e.tells authenticating outcome).filterMap (Event.told? .error) =
      (e.dispatcher.codec.told? authenticating outcome).toList.map (·.message) := by
  rw [tells, Codec.notices, List.map_append, List.filterMap_append]
  have hinfos : (((e.dispatcher.codec.warnings outcome).map (⟨.info, ·⟩)).map
      (Event.notice e.front e.task)).filterMap (Event.told? .error) = [] := by
    simp [List.filterMap_map, Function.comp_def, Event.told?]
  rw [hinfos, List.nil_append]
  cases e.dispatcher.codec.told? authenticating outcome <;> rfl

/-- The warnings of an answer are told whoever is logging in. -/
theorem infos_tells (authenticating : Bool) (outcome : Except TransportError Http.Response) :
    (e.tells authenticating outcome).filterMap (Event.told? .info) =
      e.dispatcher.codec.warnings outcome := by
  rw [tells, Codec.notices, List.map_append, List.filterMap_append]
  have hinfos : (((e.dispatcher.codec.warnings outcome).map (⟨.info, ·⟩)).map
      (Event.notice e.front e.task)).filterMap (Event.told? .info) =
        e.dispatcher.codec.warnings outcome := by
    simp [List.filterMap_map, Function.comp_def, Event.told?]
  rw [hinfos]
  cases e.dispatcher.codec.told? authenticating outcome with
  | none => exact List.append_nil _
  | some cause => exact List.append_nil _

/-- The end of a dispatch is no notice. -/
theorem told?_soloEnd (kind : Notice.Kind) (result? : Option (Except CallError Value)) :
    (result?.toList.flatMap e.soloEnd).filterMap (Event.told? kind) = [] := by
  cases result? <;> rfl

/-- The error of the dispatch is told under the mark that a dispatch has which logs in or has been
asked to. -/
theorem told?_answer {c : Course} (h : c.Fits e.dispatcher) :
    (c.answer?.toList.flatMap fun outcome => (e.dispatcher.codec.told?
      (e.authenticates || !c.rounds.isEmpty) outcome).toList.map (·.message)) =
      (e.ownError? c).toList.map (·.message) := by
  cases hanswer : c.answer? with
  | none =>
    -- without an answer the course is not over, or the operator has given up
    rcases c.result?_of_unanswered hanswer e.dispatcher.codec with hresult | hresult
    · rw [ownError?, hresult]
      rfl
    · rw [ownError?, hresult]
      rfl
  | some outcome =>
    rw [ownError?, c.result?_of_answer? hanswer, c.any_demandsLogin h hanswer, Option.toList_some,
      List.flatMap_singleton, Codec.told?]
    obtain ⟨body, hbody⟩ | ⟨cause, hloss⟩ | ⟨cause, hloss⟩ | ⟨status, text, hrefused⟩ :=
      e.dispatcher.codec.result_cases outcome
    · rw [hbody]
    · rw [hloss]
      cases cause <;> simp [CallError.ofTransport, CallError.status?, CallError.isLoss]
    · rw [hloss]
      simp [CallError.status?, CallError.isLoss]
    · rw [hrefused]
      cases e.authenticates <;> cases c.rounds.isEmpty <;> rfl

/-- The error notices of a course are its error texts, in order. -/
theorem errors_courseEvents {c : Course} (h : c.Fits e.dispatcher) :
    (e.courseEvents post request e.authenticates c).filterMap (Event.told? .error) =
      e.errorTexts c := by
  rw [filterMap_courseEvents (fun _ => rfl) (fun _ => rfl), told?_soloEnd, List.append_nil]
  simp only [errors_tells, Codec.told?_true]
  rw [told?_answer h, errorTexts]
  refine congrArg (· ++ _) ?_
  induction c.attempts with
  | nil => rfl
  | cons a as ih =>
    rw [List.flatMap_cons, ih, List.filterMap_cons]
    cases e.dispatcher.codec.loss? a.outcome <;> rfl

/-- The notices for information are its warnings, in order. -/
theorem infos_courseEvents {c : Course} (h : c.Fits e.dispatcher) :
    (e.courseEvents post request e.authenticates c).filterMap (Event.told? .info) =
      e.warningTexts c := by
  rw [filterMap_courseEvents (fun _ => rfl) (fun _ => rfl), told?_soloEnd, List.append_nil]
  simp only [infos_tells]
  exact (c.warnings_outcomes h e.dispatcher.codec).symm

/-- The account of what the operator is told in a dispatch that is alone in its session.

Whatever is in store for it, the errors are, in order, those of the logins out of its dialogs that
got lost or cannot be read, and then that of the dispatch itself, if it is such a loss, or if the
server has reported it, the call does not log in by itself, and there has been no demand to log in
before. The warnings are those of all answers, in order. So a login that is refused, a dialog that
is dismissed and a demand to log in are never told.

A call without a request ends with nothing told. -/
theorem play_notices (e : Errand) (site : ActiveSite) (generation : Nat) (script : Script) :
    (∃ (post : Credentials → Http.Request) (request : Http.Request) (c : Course)
        (played : Workload × List Event),
      (∀ entered, e.dispatcher.api.request e.dispatcher.codec site.id?
        (entered.login e.dispatcher.api.authEndpoint) = .ok (post entered)) ∧
      e.dispatcher.api.request e.dispatcher.codec site.id? e.call = .ok request ∧
      c.Tells e post request e.authenticates site generation script played ∧
      e.play site generation script =
        playedAfter [.loading e.front true, .sent e.task request] played ∧
      (e.play site generation script).2.filterMap (Event.told? .error) = e.errorTexts c ∧
      (e.play site generation script).2.filterMap (Event.told? .info) = e.warningTexts c) ∨
    (e.dispatcher.codec ≠ .standard ∧
      (∃ cause, e.dispatcher.api.request e.dispatcher.codec site.id? e.call = .error cause ∧
        .ended e.task (.error (.encode cause)) ∈ (e.play site generation script).2) ∧
      ∀ kind, (e.play site generation script).2.filterMap (Event.told? kind) = []) := by
  obtain ⟨post, hpost, ⟨request, hrequest, c, played, htells, hplay⟩ |
    ⟨hcodec, cause, hcause, hplay⟩⟩ := e.exists_play site generation script
  · refine .inl ⟨post, request, c, played, hpost, hrequest, htells, hplay, ?_, ?_⟩
    · rw [hplay, playedAfter, htells.events]
      exact errors_courseEvents htells.fits
    · rw [hplay, playedAfter, htells.events]
      exact infos_courseEvents htells.fits
  · refine .inr ⟨hcodec, ⟨cause, hcause, ?_⟩, fun kind => ?_⟩
    · rw [hplay]
      simp [soloEnd]
    · rw [hplay]
      rfl

end Errand

end Courier
