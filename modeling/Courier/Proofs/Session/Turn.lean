import Courier.Proofs.Api.Verdict
import Courier.Proofs.Session.Turnstile
import Courier.Session.Workload

/-!
# `Courier.Proofs.Session.Turn`: what a dispatch does

A dispatch that waits goes on in a way that fits its phase, or is dropped. `Dispatch.Runs` lists
these runs as the program has them, and `Dispatch.Turn` what they come to: the dispatch ends, comes
to the turnstile, opens its dialog, asks in it again, sends a login out of it, or sends its request
again. Later proofs split on the second list and do not open the first.

* `Runs.turn`: a run comes to one of these.
* `Runs.makes`: what a run lets be seen and does to the session is made of few pieces
  (`Errand.Makes`).
* `Runs.isOf`: what a run lets be seen is about its own task.
* `Runs.generation`: the generation counts the logins (`Dispatch.logsIn`).
-/

set_option autoImplicit false

namespace Courier

/-! ### Phases -/

namespace Phase

/-- Whether a dispatch in this phase has its login dialog open. -/
def inDialog : Phase → Bool
  | .sending _ => false
  | .atTurnstile _ => false
  | .prompting => true
  | .loggingIn => true

/-- Whether a dispatch in this phase stands in front of the turnstile or inside it. -/
def inLine : Phase → Bool
  | .sending _ => false
  | .atTurnstile _ => true
  | .prompting => true
  | .loggingIn => true

/-- The generation that was read before the last request, while it still matters. -/
def seen? : Phase → Option Nat
  | .sending seen => some seen
  | .atTurnstile seen => some seen
  | .prompting => none
  | .loggingIn => none

variable (seen : Nat)

/-- Who waits for the answer to a request has no dialog open. -/
@[simp] theorem inDialog_sending : (sending seen).inDialog = false := rfl

/-- Who waits for the turnstile has no dialog open yet. -/
@[simp] theorem inDialog_atTurnstile : (atTurnstile seen).inDialog = false := rfl

/-- Who waits for the operator has one open. -/
@[simp] theorem inDialog_prompting : prompting.inDialog = true := rfl

/-- The dialog stays open while its login is under way. -/
@[simp] theorem inDialog_loggingIn : loggingIn.inDialog = true := rfl

/-- Who waits for the answer to a request has no business at the turnstile. -/
@[simp] theorem inLine_sending : (sending seen).inLine = false := rfl

/-- Who waits for the turnstile is in line. -/
@[simp] theorem inLine_atTurnstile : (atTurnstile seen).inLine = true := rfl

/-- The operator is asked inside the turnstile. -/
@[simp] theorem inLine_prompting : prompting.inLine = true := rfl

/-- The login is sent inside it as well. -/
@[simp] theorem inLine_loggingIn : loggingIn.inLine = true := rfl

/-- The generation read before a request is kept while its answer is awaited. -/
@[simp] theorem seen?_sending : (sending seen).seen? = some seen := rfl

/-- It is kept in the line, where it tells whether there has been a login since. -/
@[simp] theorem seen?_atTurnstile : (atTurnstile seen).seen? = some seen := rfl

/-- Once the operator is asked, it has done its part. -/
@[simp] theorem seen?_prompting : prompting.seen? = none := rfl

/-- It is not read again before the next request. -/
@[simp] theorem seen?_loggingIn : loggingIn.seen? = none := rfl

/-- A dialog is open inside the turnstile only. -/
theorem inLine_of_inDialog {phase : Phase} (h : phase.inDialog = true) : phase.inLine = true := by
  cases phase with
  | sending seen => exact nomatch h
  | atTurnstile seen => exact nomatch h
  | prompting => rfl
  | loggingIn => rfl

end Phase

/-! ### Stretches that begin earlier -/

namespace Stretch

variable (events : List Event) (t : Stretch)

/-- Events in front of a stretch do not change what becomes of the session. -/
@[simp] theorem session_after : (t.after events).session = t.session := rfl

/-- Nor do they change how the dispatch goes on. -/
@[simp] theorem next?_after : (t.after events).next? = t.next? := rfl

/-- They are seen first. -/
@[simp] theorem events_after : (t.after events).events = events ++ t.events := rfl

end Stretch

/-! ### What a dispatch does -/

/-- What a waiting dispatch does on a signal. -/
inductive Dispatch.Runs (s : Session) : Dispatch → Signal → Stretch → Prop
  /-- The answer to its request has come. -/
  | received (e : Errand) (armed : Bool) (seen : Nat)
      (outcome : Except TransportError Http.Response) :
      Runs s ⟨e, armed, .sending seen⟩ (.answer e.task outcome) (e.receive seen outcome s)
  /-- The answer to a login out of its dialog has come. -/
  | loggedIn (e : Errand) (armed : Bool) (outcome : Except TransportError Http.Response) :
      Runs s ⟨e, armed, .loggingIn⟩ (.answer e.task outcome) (e.loggedIn outcome s)
  /-- The operator has answered its dialog. -/
  | answered (e : Errand) (armed : Bool) (entered : Option Credentials) :
      Runs s ⟨e, armed, .prompting⟩ (.credentials e.task entered) (e.answered entered s)
  /-- It has come to stand inside the turnstile. -/
  | admitted (e : Errand) (armed : Bool) (seen : Nat)
      (hinside : s.turnstile.holder? = some e.task) :
      Runs s ⟨e, armed, .atTurnstile seen⟩ (.proceed e.task) (e.admitted seen s)
  | dropped (d : Dispatch) :
      Runs s d (.drop d.errand.task) ⟨(d.drop s).1, (d.drop s).2, none⟩

/-- The task that a signal is for. -/
def Signal.task? : Signal → Option Nat
  | .start e => some e.task
  | .answer task _ => some task
  | .credentials task _ => some task
  | .proceed task => some task
  | .drop task => some task
  | .switch _ => none

/-- Whether the signal is an answer of the operator. -/
def Signal.isCredentials : Signal → Bool
  | .credentials _ _ => true
  | _ => false

/-- Whether the answer that a dispatch gets is a successful login: to the login out of its dialog,
or to its request if that is a login that the operator asked for. -/
def Dispatch.logsIn (d : Dispatch) : Signal → Bool
  | .answer _ outcome =>
    match d.phase with
    | .sending _ => d.errand.isLogin && d.errand.dispatcher.codec.accepts outcome
    | .loggingIn => d.errand.dispatcher.codec.accepts outcome
    | _ => false
  | _ => false

/-- Whether this event on a signal is that a task opens its dialog: it asks without an error to tell
of, or it gives up without an answer of the operator, as there is nobody to ask. -/
def Event.opensDialog (task : Nat) (signal : Signal) : Event → Bool
  | .asked t none => decide (t = task)
  | .ended t (.error .abandoned) => decide (t = task) && !signal.isCredentials
  | _ => false

/-- Whether an event is one that a task lets be seen, or one of a front end as a whole. -/
def Event.isOf (task : Nat) : Event → Bool
  | .loading _ _ => true
  | .notice _ t _ => decide (t = task)
  | .sent t _ => decide (t = task)
  | .asked t _ => decide (t = task)
  | .ended t _ => decide (t = task)

/-- Whether a task has opened its dialog on a signal. -/
def opensDialog (task : Nat) (signal : Signal) (events : List Event) : Bool :=
  events.any (·.opensDialog task signal)

/-- A dialog opens in a sequence of events if it opens in a part of it. -/
@[simp] theorem opensDialog_append (task : Nat) (signal : Signal) (before after : List Event) :
    opensDialog task signal (before ++ after) =
      (opensDialog task signal before || opensDialog task signal after) :=
  List.any_append

/-- The request of a call is sent, from the site that is active. -/
def Errand.Sends (e : Errand) (s : Session) (events : List Event) : Prop :=
  ∃ request, e.dispatcher.api.request e.dispatcher.codec s.site.id? e.call = .ok request ∧
    .sent e.task request ∈ events

/-- What a run of a dispatch comes to. -/
inductive Dispatch.Turn (s : Session) (d : Dispatch) (signal : Signal) (t : Stretch) : Prop
  | ended (hnext : t.next? = none) (hquiet : opensDialog d.errand.task signal t.events = false)
  /-- The server asks for a login, and somebody else is inside the turnstile. -/
  | queued (seen : Nat) (hnext : t.next? = some ⟨d.errand, true, .atTurnstile seen⟩)
      (hphase : d.phase = .sending seen)
      (hquiet : opensDialog d.errand.task signal t.events = false)
      (hlogin : d.logsIn signal = false)
  /-- It has opened its dialog. If there is nobody to ask, it has ended with that. -/
  | opened (hnext : ∀ next, t.next? = some next → next = ⟨d.errand, true, .prompting⟩)
      (hseen : d.phase.seen? = some s.generation)
      (hfree : s.turnstile.holder? = none ∨ s.turnstile.holder? = some d.errand.task)
      (hopens : opensDialog d.errand.task signal t.events = true)
      (hlogin : d.logsIn signal = false)
  /-- The login out of its dialog has failed. -/
  | askedAgain (hnext : t.next? = some ⟨d.errand, true, .prompting⟩)
      (hdialog : d.phase.inDialog = true)
      (hquiet : opensDialog d.errand.task signal t.events = false)
      (hlogin : d.logsIn signal = false)
  | loggingIn (hnext : t.next? = some ⟨d.errand, true, .loggingIn⟩) (hphase : d.phase = .prompting)
      (hquiet : opensDialog d.errand.task signal t.events = false)
      (hlogin : d.logsIn signal = false)
  /-- It has sent its request again, as there has been a login. -/
  | resent (hnext : t.next? = some ⟨d.errand, true, .sending t.session.generation⟩)
      (hsent : d.errand.Sends s t.events)
      (hquiet : opensDialog d.errand.task signal t.events = false)
      (hlogin : d.logsIn signal = true ∨ ∃ seen, d.phase.seen? = some seen ∧ seen ≠ s.generation)

namespace Errand

variable {s : Session} {e : Errand} {armed : Bool} {seen : Nat} {signal : Signal}

/-- A dispatch does not go on behind its end. -/
@[simp] theorem next?_finish (e : Errand) (result : Except CallError Value) (s : Session) :
    (e.finish result s).next? = none := rfl

/-- What happens to the front end does not open a dialog. -/
@[simp] theorem opensDialog_depart {task : Nat} :
    opensDialog task signal (e.depart s).2 = false := by
  unfold depart
  split <;> rfl

/-- A notice opens no dialog. -/
@[simp] theorem opensDialog_notices {front task : Nat} (notices : List Notice) :
    opensDialog e.task signal (notices.map (.notice front task ·)) = false := by
  simp [opensDialog, Event.opensDialog]

/-- A dispatch that ends has not opened its dialog, unless it has given up. -/
theorem opensDialog_finish {result : Except CallError Value}
    (h : result = .error .abandoned → signal.isCredentials = true) :
    opensDialog e.task signal (e.finish result s).events = false := by
  show opensDialog e.task signal ((e.depart (s.mark false)).2 ++ [.ended e.task result]) = false
  rw [opensDialog_append, opensDialog_depart, Bool.false_or]
  -- what is left is the end, which counts only if it is giving up unasked
  simp only [opensDialog, List.any_cons, List.any_nil, Bool.or_false, Event.opensDialog]
  split
  case h_1 he => cases he
  case h_2 he =>
    cases he
    simp [h rfl]
  case h_3 => rfl

/-- A request is sent, or it has no bytes and the dispatch ends. -/
theorem send_cases (e : Errand) (armed : Bool) (s : Session) (signal : Signal) :
    opensDialog e.task signal (e.send armed s).events = false ∧
      ((e.send armed s).next? = none ∧
          (∃ cause, .ended e.task (.error (.encode cause)) ∈ (e.send armed s).events) ∨
        (e.send armed s).next? = some ⟨e, armed, .sending (e.send armed s).session.generation⟩ ∧
          e.Sends s (e.send armed s).events) := by
  unfold send Sends
  cases hrequest : e.dispatcher.api.request e.dispatcher.codec s.site.id? e.call with
  | error cause =>
    refine ⟨opensDialog_finish (by simp), .inl ⟨rfl, cause, ?_⟩⟩
    exact List.mem_append_right _ (List.mem_singleton_self _)
  | ok request =>
    refine ⟨rfl, .inr ⟨?_, request, rfl, List.mem_singleton_self _⟩⟩
    dsimp only
    split <;> rfl

end Errand

namespace Dispatch

variable {s τ : Session} {d : Dispatch} {e : Errand} {armed : Bool} {seen : Nat} {signal : Signal}
  {t : Stretch}

/-- Notices change nothing about a turn. -/
theorem Turn.after (h : d.Turn s signal t) (notices : List Notice) :
    d.Turn s signal (t.after (notices.map (.notice d.errand.front d.errand.task ·))) := by
  have hsame : opensDialog d.errand.task signal
      (t.after (notices.map (.notice d.errand.front d.errand.task ·))).events =
        opensDialog d.errand.task signal t.events := by simp
  cases h with
  | ended hnext hquiet => exact .ended hnext (hsame.trans hquiet)
  | queued seen hnext hphase hquiet hlogin =>
    exact .queued seen hnext hphase (hsame.trans hquiet) hlogin
  | opened hnext hseen hfree hopens hlogin =>
    exact .opened hnext hseen hfree (hsame.trans hopens) hlogin
  | askedAgain hnext hdialog hquiet hlogin =>
    exact .askedAgain hnext hdialog (hsame.trans hquiet) hlogin
  | loggingIn hnext hphase hquiet hlogin =>
    exact .loggingIn hnext hphase (hsame.trans hquiet) hlogin
  | resent hnext hsent hquiet hlogin =>
    obtain ⟨request, hrequest, hsent⟩ := hsent
    exact .resent hnext ⟨request, hrequest, List.mem_append_right _ hsent⟩ (hsame.trans hquiet)
      hlogin

/-- A dispatch that has logged in sends its request again, and so does one that learns of the login
of another. -/
theorem turn_send (hsite : τ.site = s.site)
    (hlogin : d.logsIn signal = true ∨ ∃ seen, d.phase.seen? = some seen ∧ seen ≠ s.generation) :
    d.Turn s signal (d.errand.send true τ) := by
  obtain ⟨hquiet, ⟨hended, -⟩ | ⟨hnext, hsent⟩⟩ := d.errand.send_cases true τ signal
  · exact .ended hended hquiet
  · rw [Errand.Sends, hsite] at hsent
    exact .resent hnext hsent hquiet hlogin

/-- With somebody to ask, a login out of the dialog that fails is followed by another one. -/
theorem turn_ask (hattended : d.errand.dispatcher.attended = true)
    (hdialog : d.phase.inDialog = true) (hlogin : d.logsIn signal = false) (lastError : String) :
    d.Turn s signal (d.errand.ask (some lastError) τ) := by
  unfold Errand.ask
  rw [if_pos hattended]
  exact .askedAgain rfl hdialog rfl hlogin

/-- A dispatch that is let in asks for a login, or sends its request again if there has been one
since it sent it. -/
theorem turn_admitted (hseen : d.phase.seen? = some seen) (hlogin : d.logsIn signal = false)
    (hfree : s.turnstile.holder? = none ∨ s.turnstile.holder? = some d.errand.task)
    (hsignal : signal.isCredentials = false) (hgeneration : τ.generation = s.generation)
    (hsite : τ.site = s.site) : d.Turn s signal (d.errand.admitted seen τ) := by
  unfold Errand.admitted
  split
  case isTrue hsame =>
    -- nobody has logged in since the request was sent, so a dialog opens
    have hcurrent : d.phase.seen? = some s.generation := by rw [hseen, ← hsame, hgeneration]
    unfold Errand.ask
    split
    -- with somebody to ask it asks, and with nobody to ask it gives up
    · exact .opened (fun next hnext => (Option.some.inj hnext).symm) hcurrent hfree
        (by simp [opensDialog, Event.opensDialog]) hlogin
    · refine .opened (fun next hnext => nomatch hnext) hcurrent hfree ?_ hlogin
      show opensDialog d.errand.task signal
        ((d.errand.depart _).2 ++ [.ended d.errand.task (.error .abandoned)]) = true
      simp [opensDialog, Event.opensDialog, hsignal]
  case isFalse hnewer =>
    exact turn_send hsite (.inr ⟨seen, hseen, fun he => hnewer (hgeneration.trans he.symm)⟩)

/-- Whatever a dispatch does, it comes to one of these, if it has somebody to ask while it is in its
dialog. -/
theorem Runs.turn (h : d.Runs s signal t)
    (hattended : d.phase.inDialog = true → d.errand.dispatcher.attended = true) :
    d.Turn s signal t := by
  cases h with
  | received e armed seen outcome =>
    unfold Errand.receive
    cases hverdict : Verdict.of e.dispatcher.codec s.authenticating outcome with
    | loginRequired =>
      -- a demand to log in is no successful login
      have hlogin : logsIn ⟨e, armed, .sending seen⟩ (.answer e.task outcome) = false := by
        simp [logsIn, Verdict.accepts_of_loginRequired hverdict]
      unfold Errand.requireLogin
      dsimp only
      split
      case isTrue hinside =>
        exact turn_admitted rfl hlogin (Turnstile.holder?_of_enter hinside) rfl rfl rfl
      case isFalse => exact .queued seen rfl rfl rfl hlogin
    | ended notices result =>
      refine Turn.after (.ended rfl ?_) notices
      exact Errand.opensDialog_finish fun he =>
        absurd he (Verdict.ne_abandoned_of_ended hverdict)
  | loggedIn e armed outcome =>
    unfold Errand.loggedIn
    cases hverdict : Verdict.of e.dispatcher.codec s.authenticating outcome with
    | loginRequired =>
      refine turn_ask (hattended rfl) rfl ?_ _
      exact Verdict.accepts_of_loginRequired hverdict
    | ended notices result =>
      have hlogin := (Verdict.isOk_of_ended hverdict).symm
      refine Turn.after ?_ notices
      cases result with
      | ok body => exact turn_send rfl (.inl hlogin)
      | error cause =>
        refine turn_ask (hattended rfl) rfl ?_ _
        exact hlogin
  | answered e armed entered =>
    unfold Errand.answered
    cases entered with
    | none => exact .ended rfl (Errand.opensDialog_finish fun _ => rfl)
    | some c =>
      dsimp only
      split
      · exact turn_ask (hattended rfl) rfl rfl _
      · exact .loggingIn rfl rfl rfl rfl
  | admitted e armed seen hinside => exact turn_admitted rfl rfl (.inr hinside) rfl rfl rfl
  | dropped => exact .ended rfl Errand.opensDialog_depart

/-- A dispatch goes on when a signal is for its task. -/
theorem Runs.task?_signal (h : d.Runs s signal t) : signal.task? = some d.errand.task := by
  cases h with
  | received e armed seen outcome => rfl
  | loggedIn e armed outcome => rfl
  | answered e armed entered => rfl
  | admitted e armed seen hinside => rfl
  | dropped => rfl

/-- The dispatch that goes on has the same errand, and by now it has marked the session. -/
theorem Turn.errand_armed {next : Dispatch} (h : d.Turn s signal t) (hnext : t.next? = some next) :
    next.errand = d.errand ∧ next.armed = true := by
  cases h with
  | ended hnone => exact nomatch hnone.symm.trans hnext
  | queued seen hsome => cases hsome.symm.trans hnext; exact ⟨rfl, rfl⟩
  | opened hall => cases hall next hnext; exact ⟨rfl, rfl⟩
  | askedAgain hsome => cases hsome.symm.trans hnext; exact ⟨rfl, rfl⟩
  | loggingIn hsome => cases hsome.symm.trans hnext; exact ⟨rfl, rfl⟩
  | resent hsome => cases hsome.symm.trans hnext; exact ⟨rfl, rfl⟩

end Dispatch

/-! ### What a run is made of -/

/-- What a run of a dispatch comes to in its session and its events, whatever the reason is. The
dispatch ends, or it waits on after it has sent a request or asked the operator or done neither,
and it may have told the operator something before. As long as it has not ended it is in flight,
and it leaves the site to others. -/
inductive Errand.Makes (e : Errand) (s : Session) : Stretch → Prop
  | finished (τ : Session) (hsite : τ.site = s.site) (hcount : τ.inFlight = s.inFlight)
      (result : Except CallError Value) : Makes e s (e.finish result τ)
  | sent (τ : Session) (hsite : τ.site = s.site) (hcount : τ.inFlight = s.inFlight)
      (request : Http.Request) (next : Dispatch) : Makes e s ⟨τ, [.sent e.task request], some next⟩
  | asked (τ : Session) (hsite : τ.site = s.site) (hcount : τ.inFlight = s.inFlight)
      (lastError : Option String) (next : Dispatch) :
      Makes e s ⟨τ, [.asked e.task lastError], some next⟩
  | queued (τ : Session) (hsite : τ.site = s.site) (hcount : τ.inFlight = s.inFlight)
      (next : Dispatch) : Makes e s ⟨τ, [], some next⟩
  | noticed (notices : List Notice) {t : Stretch} (h : Makes e s t) :
      Makes e s (t.after (notices.map (.notice e.front e.task ·)))

namespace Errand

variable {e : Errand} {s τ : Session}

/-- Sending makes one of the pieces, in any session with the same site and requests in flight. -/
theorem makes_send (armed : Bool) (hsite : τ.site = s.site) (hcount : τ.inFlight = s.inFlight) :
    e.Makes s (e.send armed τ) := by
  unfold send
  split
  · exact .finished τ hsite hcount _
  · -- a request that logs in marks the session, and that is all that it does to it
    split
    · exact .sent (τ.mark true) hsite hcount _ _
    · exact .sent τ hsite hcount _ _

/-- So is asking for a login. -/
theorem makes_ask (lastError : Option String) (hsite : τ.site = s.site)
    (hcount : τ.inFlight = s.inFlight) : e.Makes s (e.ask lastError τ) := by
  unfold ask
  split
  · exact .asked τ hsite hcount _ _
  · exact .finished (τ.closeDialog e.task) hsite hcount _

/-- So is being let in. -/
theorem makes_admitted (seen : Nat) (hsite : τ.site = s.site)
    (hcount : τ.inFlight = s.inFlight) : e.Makes s (e.admitted seen τ) := by
  unfold admitted
  split
  · exact makes_ask none hsite hcount
  · exact makes_send true hsite hcount

/-- A dispatch that begins joins those in flight, and shows that something is going on if it is the
first one. Then it sends its request. -/
theorem makes_start (e : Errand) (s : Session) :
    ∃ t, e.Makes { s with inFlight := s.inFlight + 1 } t ∧
      e.start s = t.after (if s.inFlight = 0 then [.loading e.front true] else []) := by
  refine ⟨_, ?_, rfl⟩
  split
  · exact makes_send _ rfl rfl
  · exact makes_send _ rfl rfl

end Errand

/-- A dispatch that runs ends or waits on, unless it is dropped. -/
theorem Dispatch.Runs.makes {d : Dispatch} {s : Session} {signal : Signal} {t : Stretch}
    (h : d.Runs s signal t) :
    (∀ task, signal ≠ .drop task) ∧ d.errand.Makes s t ∨
      signal = .drop d.errand.task ∧ t = ⟨(d.drop s).1, (d.drop s).2, none⟩ := by
  -- in each case the same branches as in the program, and a piece for each of their ends
  cases h with
  | received e armed seen outcome =>
    refine .inl ⟨fun task he => (by cases he), ?_⟩
    unfold Errand.receive
    split
    · unfold Errand.requireLogin
      dsimp only
      split
      · exact Errand.makes_admitted seen rfl rfl
      · refine .queued _ ?_ ?_ _ <;> rfl
    · exact .noticed _ (.finished s rfl rfl _)
  | loggedIn e armed outcome =>
    refine .inl ⟨fun task he => (by cases he), ?_⟩
    unfold Errand.loggedIn
    split
    · exact Errand.makes_ask _ rfl rfl
    · refine .noticed _ ?_
      split
      · exact Errand.makes_send true rfl rfl
      · exact Errand.makes_ask _ rfl rfl
  | answered e armed entered =>
    refine .inl ⟨fun task he => (by cases he), ?_⟩
    unfold Errand.answered
    split
    · refine .finished (s.closeDialog e.task) ?_ ?_ _ <;> rfl
    · dsimp only
      split
      · exact Errand.makes_ask _ rfl rfl
      · refine .sent (s.mark true) ?_ ?_ _ _ <;> rfl
  | admitted e armed seen hinside =>
    exact .inl ⟨fun task he => (by cases he), Errand.makes_admitted seen rfl rfl⟩
  | dropped => exact .inr ⟨rfl, rfl⟩

/-! ### The events of a run are those of its task -/

section
variable {s : Session} {e : Errand}

/-- What is seen when a dispatch departs is of its own task. -/
@[simp] theorem Errand.isOf_depart (task : Nat) :
    (e.depart s).2.all (·.isOf task) = true := by
  unfold depart
  split <;> rfl

/-- All that an errand lets be seen is of its own task. -/
theorem Errand.Makes.isOf {t : Stretch} (h : e.Makes s t) :
    t.events.all (·.isOf e.task) = true := by
  induction h with
  | finished τ hsite hcount result =>
    show ((e.depart (τ.mark false)).2 ++ [Event.ended e.task result]).all (·.isOf e.task) = true
    rw [List.all_append, isOf_depart, Bool.true_and]
    simp [Event.isOf]
  | sent τ hsite hcount request next => simp [Event.isOf]
  | asked τ hsite hcount lastError next => simp [Event.isOf]
  | queued τ hsite hcount next => rfl
  | noticed notices h ih => simpa [Event.isOf] using ih

/-- Whatever a run lets be seen is about its own task, or about a front end. -/
theorem Dispatch.Runs.isOf {d : Dispatch} {signal : Signal} {t : Stretch}
    (h : d.Runs s signal t) : t.events.all (·.isOf d.errand.task) = true := by
  obtain ⟨-, hmakes⟩ | ⟨-, rfl⟩ := h.makes
  · exact hmakes.isOf
  · exact Errand.isOf_depart _

/-- This goes for its beginning, too. -/
theorem Errand.isOf_start (e : Errand) (s : Session) :
    (e.start s).events.all (·.isOf e.task) = true := by
  obtain ⟨t, hmakes, hstart⟩ := e.makes_start s
  rw [hstart, Stretch.events_after, List.all_append, hmakes.isOf, Bool.and_true]
  split <;> rfl

end

/-- So a dialog that opens in a run is the one of its task. -/
theorem task_eq_of_opensDialog {task other : Nat} {signal : Signal} {events : List Event}
    (h : events.all (·.isOf task) = true) (hopens : opensDialog other signal events = true) :
    other = task := by
  obtain ⟨event, hevent, ho⟩ := List.any_eq_true.mp hopens
  have hof := List.all_eq_true.mp h event hevent
  unfold Event.opensDialog at ho
  split at ho
  · simp only [Event.isOf, decide_eq_true_eq] at hof ho
    exact ho.symm.trans hof
  · simp only [Event.isOf, Bool.and_eq_true, decide_eq_true_eq] at hof ho
    exact ho.1.symm.trans hof
  · exact nomatch ho

/-! ### Logins and the generation -/

section
variable {s : Session} {e : Errand}

/-- A login that succeeds is counted when its dispatch ends. -/
theorem Errand.generation_finish (e : Errand) (result : Except CallError Value) (s : Session) :
    (e.finish result s).session.generation =
      s.generation + if e.isLogin && result.isOk then 1 else 0 := by
  unfold finish
  dsimp only
  split <;> rfl

/-- A dispatch that fails is not. -/
theorem Errand.generation_finish_error (e : Errand) (cause : CallError) (s : Session) :
    (e.finish (.error cause) s).session.generation = s.generation := by
  rw [generation_finish]
  simp [Except.isOk, Except.toBool]

/-- Sending a request is no login. -/
theorem Errand.generation_send (e : Errand) (armed : Bool) (s : Session) :
    (e.send armed s).session.generation = s.generation := by
  unfold send
  split
  · exact e.generation_finish_error _ s
  · dsimp only
    split <;> rfl

/-- Asking for one is none yet. -/
theorem Errand.generation_ask (e : Errand) (lastError : Option String) (s : Session) :
    (e.ask lastError s).session.generation = s.generation := by
  unfold ask
  split
  · rfl
  · exact e.generation_finish_error _ _

/-- Being let in is none either. -/
theorem Errand.generation_admitted (e : Errand) (seen : Nat) (s : Session) :
    (e.admitted seen s).session.generation = s.generation := by
  unfold admitted
  split
  · exact e.generation_ask none _
  · exact e.generation_send true _

/-- The generation counts the logins. -/
theorem Dispatch.Runs.generation {d : Dispatch} {signal : Signal} {t : Stretch}
    (h : d.Runs s signal t) :
    t.session.generation = s.generation + if d.logsIn signal then 1 else 0 := by
  cases h with
  | received e armed seen outcome =>
    unfold Errand.receive
    cases hverdict : Verdict.of e.dispatcher.codec s.authenticating outcome with
    | loginRequired =>
      simp only [logsIn, Verdict.accepts_of_loginRequired hverdict, Bool.and_false]
      unfold Errand.requireLogin
      dsimp only
      split
      · exact e.generation_admitted seen _
      · rfl
    | ended notices result =>
      simp only [logsIn, ← Verdict.isOk_of_ended hverdict]
      exact e.generation_finish result s
  | loggedIn e armed outcome =>
    unfold Errand.loggedIn
    cases hverdict : Verdict.of e.dispatcher.codec s.authenticating outcome with
    | loginRequired =>
      simp only [logsIn, Verdict.accepts_of_loginRequired hverdict]
      exact e.generation_ask _ s
    | ended notices result =>
      simp only [logsIn, ← Verdict.isOk_of_ended hverdict, Stretch.session_after]
      cases result with
      | ok body => exact e.generation_send true _
      | error cause => exact e.generation_ask _ _
  | answered e armed entered =>
    unfold Errand.answered
    cases entered with
    | none => exact e.generation_finish_error _ _
    | some c =>
      dsimp only
      split
      · exact e.generation_ask _ _
      · rfl
  | admitted e armed seen hinside => exact e.generation_admitted seen s
  | dropped =>
    -- what a dropped dispatch gives back leaves the generation as it is
    obtain ⟨e, armed, phase⟩ := d
    unfold drop
    cases phase <;> cases armed <;> rfl

end

/-! ### A dispatch that begins -/

/-- A dispatch that begins sends its request, or has ended already, and opens no dialog. -/
theorem Errand.start_cases (e : Errand) (s : Session) (signal : Signal) :
    opensDialog e.task signal (e.start s).events = false ∧
      ((e.start s).next? = none ∨
        (e.start s).next? = some ⟨e, e.authenticates, .sending (e.start s).session.generation⟩ ∧
          e.Sends s (e.start s).events) := by
  unfold start
  dsimp only [Stretch.after]
  generalize hmarked : (if e.authenticates = true then _ else _ : Session) = τ
  have hsite : τ.site = s.site := by
    rw [← hmarked]
    split <;> rfl
  obtain ⟨hquiet, hcases⟩ := e.send_cases e.authenticates τ signal
  refine ⟨?_, hcases.imp And.left fun ⟨hnext, request, hrequest, hsent⟩ =>
    ⟨hnext, request, hsite ▸ hrequest, List.mem_append_right _ hsent⟩⟩
  rw [opensDialog_append, hquiet, Bool.or_false]
  split <;> rfl

/-- And nobody has logged in by beginning. -/
theorem Errand.generation_start (e : Errand) (s : Session) :
    (e.start s).session.generation = s.generation := by
  unfold start
  dsimp only [Stretch.after]
  rw [e.generation_send]
  split <;> rfl

end Courier
