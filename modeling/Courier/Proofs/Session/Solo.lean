import Courier.Proofs.Api.Outgoing
import Courier.Proofs.Session.LoginMark
import Courier.Proofs.Session.OneDialog

/-!
# `Courier.Proofs.Session.Solo`: a dispatch that is alone in its session

Nobody else counts requests, opens dialogs or sets the mark, so the session is a function of what
the dispatch waits for. There are two such states: it waits for the answer to its request
(`Errand.soloSending`), or it is in its dialog (`Errand.soloDialog`). Before it begins and after it
has ended the session is at rest (`Workload.atRest`).

The mark of a login is what matters about them. While the dispatch waits for the answer to its
request, the mark is set exactly if the dispatch is armed. In the dialog it can be set or not, and
does not matter, as an open dialog counts as a login under way.

Each lemma here is a step from one of these states to another, with everything that it lets be seen.
A dispatch that is alone never waits in front of the turnstile, so nothing is left to settle after a
step (`Workload.advance?_of_runs`).
-/

set_option autoImplicit false

namespace Courier

/-! ### Steps of a workload with one dispatch -/

namespace Workload

/-- A workload has settled if nobody in it waits at the turnstile. -/
theorem settled_of_forall_ne {w : Workload}
    (h : ∀ d ∈ w.dispatches, ∀ seen, d.phase ≠ .atTurnstile seen) : w.Settled := by
  intro task
  cases hstep : w.step? (.proceed task) with
  | none => rfl
  | some result =>
    obtain ⟨d, hfind, hphase⟩ := Option.bind_eq_some_iff.mp hstep
    split at hphase
    · rename_i seen hturn
      exact absurd hturn (h d (mem_of_find? hfind) seen)
    · exact nomatch hphase

/-- Nothing happens to a workload that has settled. -/
theorem settle_of_settled {w : Workload} (h : w.Settled) : w.settle = (w, []) :=
  settleUpTo_of_settled h _

/-- What a dispatch does that is alone is what the workload does, unless it stops at the
turnstile. -/
theorem advance?_of_runs {s : Session} {d : Dispatch} {signal : Signal} {t : Stretch}
    (hruns : d.Runs s signal t)
    (hnext : ∀ next, t.next? = some next → ∀ seen, next.phase ≠ .atTurnstile seen) :
    (⟨s, [d]⟩ : Workload).advance? signal = some (⟨t.session, t.next?.toList⟩, t.events) := by
  have hfind : (⟨s, [d]⟩ : Workload).find? d.errand.task = some d := by simp [find?]
  have hstep := step?_eq_some_iff.mpr (.ran hfind hruns)
  -- the dispatch has no others beside it, so what it becomes is all there is
  have hreplace : (⟨s, [d]⟩ : Workload).replace d.errand.task t.next? = t.next?.toList := by
    cases t.next? with
    | none => simp [replace, others]
    | some next => simp [replace]
  have hsettled : (⟨t.session, t.next?.toList⟩ : Workload).Settled := by
    refine settled_of_forall_ne fun next hmem => hnext next ?_
    exact Option.mem_toList.mp hmem
  rw [advance?, hstep]
  show some ((settle ⟨t.session, _⟩).1, t.events ++ (settle ⟨t.session, _⟩).2) = _
  rw [hreplace, settle_of_settled hsettled, List.append_nil]

/-- A session without requests. -/
def atRest (site : ActiveSite) (generation : Nat) : Workload :=
  ⟨{ generation := generation, site := site }, []⟩

/-- Whatever has happened in a session, without requests it is at rest. -/
theorem eq_atRest_of_run {history : List Moment} {w : Workload} (h : Run history w)
    (hempty : w.dispatches = []) : w = atRest w.session.site w.session.generation := by
  obtain ⟨s, ds⟩ := w
  obtain rfl : ds = [] := hempty
  obtain ⟨hmark, hdialogs, hflight, hturnstile⟩ := h.orderly.at_rest
  obtain ⟨loggingIn, dialogsOpen, generation, inFlight, turnstile, site⟩ := s
  simp only [Session.authenticating, Bool.or_eq_false_iff] at hmark
  obtain ⟨rfl, -⟩ := hmark
  dsimp only at hdialogs hflight hturnstile
  rw [hdialogs, hflight, hturnstile]
  rfl

end Workload

namespace Errand

/-! ### The states of a dispatch that is alone -/

/-- The session of a dispatch that is alone and out of the dialog. -/
def soloSession (site : ActiveSite) (generation : Nat) (marked : Bool) : Session :=
  { loggingIn := marked, generation := generation, inFlight := 1, site := site }

/-- A dispatch that is alone and waits for the answer to its request. -/
def soloSending (e : Errand) (site : ActiveSite) (generation : Nat) (armed : Bool) : Workload :=
  ⟨soloSession site generation armed, [⟨e, armed, .sending generation⟩]⟩

/-- A dispatch that is alone and in its dialog. -/
def soloDialog (e : Errand) (site : ActiveSite) (generation : Nat) (marked : Bool) (phase : Phase) :
    Workload :=
  ⟨{ loggingIn := marked, dialogsOpen := 1, generation := generation, inFlight := 1,
      turnstile := ⟨some e.task, []⟩, site := site },
    [⟨e, true, phase⟩]⟩

/-- The generation after a dispatch has ended: a login that the operator asked for counts. -/
def generationAfter (e : Errand) (result : Except CallError Value) (generation : Nat) : Nat :=
  generation + if e.isLogin && result.isOk then 1 else 0

/-- A dispatch that fails is no login. -/
@[simp] theorem generationAfter_error (e : Errand) (cause : CallError) (generation : Nat) :
    e.generationAfter (.error cause) generation = generation := by
  simp [generationAfter, Except.isOk, Except.toBool]

/-- What the operator sees last of a dispatch that is alone. -/
def soloEnd (e : Errand) (result : Except CallError Value) : List Event :=
  [.loading e.front false, .ended e.task result]

variable {e : Errand} {site : ActiveSite} {generation : Nat} {armed marked : Bool}
  {request : Http.Request} {outcome : Except TransportError Http.Response}

/-- A dispatch that is alone is found while it waits for the answer. -/
theorem find?_soloSending : (e.soloSending site generation armed).find? e.task =
    some ⟨e, armed, .sending generation⟩ := by
  simp [soloSending, Workload.find?]

/-- It is found in its dialog, too. -/
theorem find?_soloDialog {phase : Phase} :
    (e.soloDialog site generation marked phase).find? e.task = some ⟨e, true, phase⟩ := by
  simp [soloDialog, Workload.find?]

/-- In the dialog a login is under way whether the mark is set or not. -/
theorem authenticating_soloDialog {phase : Phase} :
    (e.soloDialog site generation marked phase).session.authenticating = true := by
  simp [soloDialog, Session.authenticating]

/-- The end of a dispatch that holds nothing of the session any more. -/
theorem finish_solo (result : Except CallError Value) :
    e.finish result (soloSession site generation marked) =
      ⟨(Workload.atRest site (e.generationAfter result generation)).session, e.soloEnd result,
        none⟩ := by
  unfold finish depart generationAfter
  cases e.isLogin && result.isOk <;>
    simp [soloSession, Session.mark, Session.renew, Workload.atRest, soloEnd]

/-- Giving up out of the dialog. -/
theorem abandon_solo (e : Errand) (site : ActiveSite) (generation : Nat) (marked : Bool)
    (phase : Phase) :
    e.finish (.error .abandoned)
        ((e.soloDialog site generation marked phase).session.closeDialog e.task) =
      ⟨(Workload.atRest site generation).session, e.soloEnd (.error .abandoned), none⟩ := by
  have hclosed : (e.soloDialog site generation marked phase).session.closeDialog e.task =
      soloSession site generation marked := by
    simp [soloDialog, soloSession, Session.closeDialog, Turnstile.leave]
  rw [hclosed, finish_solo, generationAfter_error]

/-- A request that is sent again after a login finds the session marked. -/
theorem send_solo
    (hrequest : e.dispatcher.api.request e.dispatcher.codec site.id? e.call = .ok request)
    (harmed : e.authenticates = true → armed = true) :
    e.send armed (soloSession site generation armed) =
      ⟨soloSession site generation armed, [.sent e.task request],
        some ⟨e, armed, .sending generation⟩⟩ := by
  unfold send
  rw [show (soloSession site generation armed).site = site from rfl, hrequest]
  cases hauth : e.authenticates with
  | false => simp [soloSession]
  | true => simp [soloSession, harmed hauth, Session.mark]

/-! ### How it begins -/

/-- The session after a request has begun that shows that something is going on. -/
theorem start_eq (e : Errand) (site : ActiveSite) (generation : Nat) :
    e.start (Workload.atRest site generation).session =
      (e.send e.authenticates (soloSession site generation e.authenticates)).after
        [.loading e.front true] := by
  unfold start
  cases hauth : e.authenticates <;> simp [Workload.atRest, soloSession, Session.mark]

/-- Starting takes the workload from rest to what the dispatch has come to. -/
theorem advance?_start_of_next {t : Stretch}
    (ht : e.start (Workload.atRest site generation).session = t)
    (hnext : ∀ next, t.next? = some next → ∀ seen, next.phase ≠ .atTurnstile seen) :
    (Workload.atRest site generation).advance? (.start e) =
      some (⟨t.session, t.next?.toList⟩, t.events) := by
  have hsettled : (⟨t.session, t.next?.toList⟩ : Workload).Settled := by
    refine Workload.settled_of_forall_ne fun next hmem => hnext next ?_
    exact Option.mem_toList.mp hmem
  subst ht
  show some ((Workload.settle ⟨_, _⟩).1, _ ++ (Workload.settle ⟨_, _⟩).2) = _
  rw [show (Workload.atRest site generation).dispatches = [] from rfl, List.nil_append,
    Workload.settle_of_settled hsettled, List.append_nil]

/-- A dispatch that begins alone shows the indicator, sends its request and waits for the answer. -/
theorem advance?_start
    (hrequest : e.dispatcher.api.request e.dispatcher.codec site.id? e.call = .ok request) :
    (Workload.atRest site generation).advance? (.start e) =
      some (e.soloSending site generation e.authenticates,
        [.loading e.front true, .sent e.task request]) := by
  have hstart : e.start (Workload.atRest site generation).session =
      ⟨soloSession site generation e.authenticates, [.loading e.front true, .sent e.task request],
        some ⟨e, e.authenticates, .sending generation⟩⟩ := by
    rw [start_eq, send_solo hrequest id]
    rfl
  rw [advance?_start_of_next hstart (fun next hnext seen hphase => by cases hnext; cases hphase)]
  rfl

/-- A call that has no request ends as soon as it begins. -/
theorem advance?_start_error {cause : WireError}
    (hrequest : e.dispatcher.api.request e.dispatcher.codec site.id? e.call = .error cause) :
    (Workload.atRest site generation).advance? (.start e) =
      some (Workload.atRest site generation,
        .loading e.front true :: e.soloEnd (.error (.encode cause))) := by
  have hstart : e.start (Workload.atRest site generation).session =
      ⟨(Workload.atRest site generation).session,
        .loading e.front true :: e.soloEnd (.error (.encode cause)), none⟩ := by
    rw [start_eq, send, show (soloSession site generation e.authenticates).site = site from rfl,
      hrequest]
    dsimp only
    rw [finish_solo, generationAfter_error]
    rfl
  rw [advance?_start_of_next hstart (fun next hnext => by cases hnext)]
  rfl

/-! ### The answer to its request -/

/-- An answer that is no demand to log in ends the dispatch. -/
theorem advance?_ended (h : demandsLogin outcome = false) :
    (e.soloSending site generation armed).advance? (.answer e.task outcome) =
      some (Workload.atRest site
          (e.generationAfter (e.dispatcher.codec.result outcome) generation),
        (e.dispatcher.codec.notices armed outcome).map (.notice e.front e.task ·) ++
          e.soloEnd (e.dispatcher.codec.result outcome)) := by
  have hmark : (e.soloSending site generation armed).session.authenticating = armed := by
    simp [soloSending, soloSession, Session.authenticating]
  have hreceive : e.receive generation outcome (e.soloSending site generation armed).session =
      ⟨(Workload.atRest site
          (e.generationAfter (e.dispatcher.codec.result outcome) generation)).session,
        (e.dispatcher.codec.notices armed outcome).map (.notice e.front e.task ·) ++
          e.soloEnd (e.dispatcher.codec.result outcome), none⟩ := by
    rw [receive, hmark, Verdict.of_eq, h]
    simp only [Bool.false_eq_true, if_false]
    rw [soloSending, finish_solo]
    rfl
  have hruns := Dispatch.Runs.received (s := (e.soloSending site generation armed).session) e armed
    generation outcome
  rw [hreceive] at hruns
  exact Workload.advance?_of_runs hruns fun next hnext => by cases hnext

/-- A demand to log in opens the dialog, if there is somebody to ask. -/
theorem advance?_demanded (hattended : e.dispatcher.attended = true)
    (h : demandsLogin outcome = true) :
    (e.soloSending site generation armed).advance? (.answer e.task outcome) =
      some (e.soloDialog site generation true .prompting, [.asked e.task none]) := by
  have hreceive : e.receive generation outcome (e.soloSending site generation armed).session =
      ⟨(e.soloDialog site generation true .prompting).session, [.asked e.task none],
        some ⟨e, true, .prompting⟩⟩ := by
    rw [receive, Verdict.of_eq, h, if_pos rfl]
    simp [requireLogin, soloSending, soloSession, soloDialog, Session.mark, Turnstile.enter,
      admitted, ask, hattended, Session.openDialog]
  have hruns := Dispatch.Runs.received (s := (e.soloSending site generation armed).session) e armed
    generation outcome
  rw [hreceive] at hruns
  exact Workload.advance?_of_runs hruns fun next hnext seen hphase => by cases hnext; cases hphase

/-- With nobody to ask, a demand to log in ends the dispatch. -/
theorem advance?_unattended (hattended : e.dispatcher.attended = false)
    (h : demandsLogin outcome = true) :
    (e.soloSending site generation armed).advance? (.answer e.task outcome) =
      some (Workload.atRest site generation, e.soloEnd (.error .abandoned)) := by
  have hreceive : e.receive generation outcome (e.soloSending site generation armed).session =
      ⟨(Workload.atRest site generation).session, e.soloEnd (.error .abandoned), none⟩ := by
    rw [receive, Verdict.of_eq, h, if_pos rfl]
    -- the dialog opens and closes in one go
    rw [← abandon_solo e site generation true .prompting]
    simp [requireLogin, soloSending, soloSession, soloDialog, Session.mark, Turnstile.enter,
      admitted, ask, hattended, Session.openDialog]
  have hruns := Dispatch.Runs.received (s := (e.soloSending site generation armed).session) e armed
    generation outcome
  rw [hreceive] at hruns
  exact Workload.advance?_of_runs hruns fun next hnext => by cases hnext

/-! ### The dialog -/

/-- If its dialog is dismissed it ends, and the session is at rest. -/
theorem advance?_dismissed :
    (e.soloDialog site generation marked .prompting).advance? (.credentials e.task none) =
      some (Workload.atRest site generation, e.soloEnd (.error .abandoned)) := by
  have hruns := Dispatch.Runs.answered
    (s := (e.soloDialog site generation marked .prompting).session) e true none
  rw [answered, abandon_solo] at hruns
  exact Workload.advance?_of_runs hruns fun next hnext => by cases hnext

/-- What the operator enters is sent as a login. -/
theorem advance?_entered {c : Credentials}
    (hlogin : e.dispatcher.api.request e.dispatcher.codec site.id?
      (c.login e.dispatcher.api.authEndpoint) = .ok request) :
    (e.soloDialog site generation marked .prompting).advance? (.credentials e.task (some c)) =
      some (e.soloDialog site generation true .loggingIn, [.sent e.task request]) := by
  have hruns := Dispatch.Runs.answered
    (s := (e.soloDialog site generation marked .prompting).session) e true (some c)
  have hanswered : e.answered (some c) (e.soloDialog site generation marked .prompting).session =
      ⟨(e.soloDialog site generation true .loggingIn).session, [.sent e.task request],
        some ⟨e, true, .loggingIn⟩⟩ := by
    unfold answered
    dsimp only [soloDialog]
    rw [hlogin]
    rfl
  rw [hanswered] at hruns
  exact Workload.advance?_of_runs hruns fun next hnext seen hphase => by cases hnext; cases hphase

/-- A login that succeeds closes the dialog, and the request is sent again. -/
theorem advance?_loggedIn
    (hrequest : e.dispatcher.api.request e.dispatcher.codec site.id? e.call = .ok request)
    (h : e.dispatcher.codec.accepts outcome = true) :
    (e.soloDialog site generation true .loggingIn).advance? (.answer e.task outcome) =
      some (e.soloSending site (generation + 1) true,
        (e.dispatcher.codec.notices true outcome).map (.notice e.front e.task ·) ++
          [.sent e.task request]) := by
  have hdemand : demandsLogin outcome = false := by
    by_contra hnot
    rw [Codec.accepts_of_demandsLogin (by simpa using hnot)] at h
    cases h
  obtain ⟨body, hbody⟩ : ∃ body, e.dispatcher.codec.result outcome = .ok body := by
    rw [← Codec.isOk_result] at h
    cases hresult : e.dispatcher.codec.result outcome with
    | ok body => exact ⟨body, rfl⟩
    | error cause =>
      rw [hresult] at h
      cases h
  -- the login clears the mark, and sending the request again sets it once more
  have hclosed :
      (((e.soloDialog site generation true .loggingIn).session.mark false).renew.closeDialog
        e.task).mark true = soloSession site (generation + 1) true := by
    simp [soloDialog, soloSession, Session.mark, Session.renew, Session.closeDialog,
      Turnstile.leave]
  have hloggedIn : e.loggedIn outcome (e.soloDialog site generation true .loggingIn).session =
      ⟨soloSession site (generation + 1) true,
        (e.dispatcher.codec.notices true outcome).map (.notice e.front e.task ·) ++
          [.sent e.task request],
        some ⟨e, true, .sending (generation + 1)⟩⟩ := by
    rw [loggedIn, authenticating_soloDialog, Verdict.of_eq, hdemand]
    simp only [Bool.false_eq_true, if_false, hbody]
    rw [hclosed, send_solo hrequest fun _ => rfl]
    rfl
  have hruns := Dispatch.Runs.loggedIn
    (s := (e.soloDialog site generation true .loggingIn).session) e true outcome
  rw [hloggedIn] at hruns
  exact Workload.advance?_of_runs hruns fun next hnext seen hphase => by cases hnext; cases hphase

/-- What the dialog says after a login that has failed with this answer. -/
def failureText (codec : Codec) (outcome : Except TransportError Http.Response) : String :=
  if demandsLogin outcome then loginDenied
  else
    match codec.result outcome with
    | .ok _ => ""
    | .error e => e.message

/-- After a login that fails the dialog asks again, and says why. -/
theorem advance?_notLoggedIn (hattended : e.dispatcher.attended = true)
    (h : e.dispatcher.codec.accepts outcome = false) :
    (e.soloDialog site generation true .loggingIn).advance? (.answer e.task outcome) =
      some (e.soloDialog site generation (demandsLogin outcome) .prompting,
        (e.dispatcher.codec.notices true outcome).map (.notice e.front e.task ·) ++
          [.asked e.task (some (failureText e.dispatcher.codec outcome))]) := by
  have hruns := Dispatch.Runs.loggedIn
    (s := (e.soloDialog site generation true .loggingIn).session) e true outcome
  have hloggedIn : e.loggedIn outcome (e.soloDialog site generation true .loggingIn).session =
      ⟨(e.soloDialog site generation (demandsLogin outcome) .prompting).session,
        (e.dispatcher.codec.notices true outcome).map (.notice e.front e.task ·) ++
          [.asked e.task (some (failureText e.dispatcher.codec outcome))],
        some ⟨e, true, .prompting⟩⟩ := by
    rw [loggedIn, authenticating_soloDialog, Verdict.of_eq]
    -- a demand to log in leaves the mark, any other failure clears it
    cases hdemand : demandsLogin outcome with
    | true =>
      simp [ask, hattended, failureText, hdemand, soloDialog, Codec.notices_of_demandsLogin hdemand]
    | false =>
      cases hresult : e.dispatcher.codec.result outcome with
      | ok body =>
        rw [← Codec.isOk_result, hresult] at h
        cases h
      | error cause =>
        simp [ask, hattended, failureText, hdemand, hresult, soloDialog, Session.mark,
          Stretch.after]
  rw [hloggedIn] at hruns
  exact Workload.advance?_of_runs hruns fun next hnext seen hphase => by cases hnext; cases hphase

end Errand

end Courier
