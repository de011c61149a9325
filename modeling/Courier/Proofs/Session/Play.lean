import Courier.Proofs.Session.Course

/-!
# `Courier.Proofs.Session.Play`: every dispatch has a course

A `Script` says what the server and the operator have in store for a dispatch, and `Errand.play` is
what then happens in the session, from the beginning of the dispatch to its end or to the point at
which what comes next is not in store.

`Errand.exists_course` says that every play has a course that takes its answers from the script
(`Course.Tells`). It is an induction on the answers in store, and goes through the two states of a
dispatch that is alone. In the dialog the logins that have failed so far are kept beside the state,
as only the end of the dialog tells what kind of course it belongs to.

A play begins in a session at rest. So does every call that is made when nobody is in its session,
whatever has happened there before (`Run.played_of_empty`).

* `Errand.play_shape`: the shape of a whole dispatch.
-/

set_option autoImplicit false

namespace Courier

/-! ### Plays -/

/-- What is in store for a dispatch. -/
structure Script where
  /-- The answers to what it sends, be it its request or a login. -/
  outcomes : List (Except TransportError Http.Response)
  /-- What the operator enters into its dialogs. If it is `none`, the dialog is dismissed. -/
  entries : List (Option Credentials)

namespace Script

/-- The next answer for a task. -/
def nextOutcome? (task : Nat) (script : Script) : Option (Signal × Script) :=
  match script.outcomes with
  | [] => none
  | outcome :: rest => some (.answer task outcome, ⟨rest, script.entries⟩)

/-- What the operator enters next. -/
def nextEntry? (task : Nat) (script : Script) : Option (Signal × Script) :=
  match script.entries with
  | [] => none
  | entered :: rest => some (.credentials task entered, ⟨script.outcomes, rest⟩)

/-- What comes next for a task in this phase. -/
def next? (task : Nat) (script : Script) : Phase → Option (Signal × Script)
  | .sending _ => script.nextOutcome? task
  | .loggingIn => script.nextOutcome? task
  | .prompting => script.nextEntry? task
  | .atTurnstile _ => none

/-- How much is in store. -/
def size (script : Script) : Nat := script.outcomes.length + script.entries.length

/-- What comes next is taken out of the script. -/
theorem size_lt_of_next? {task : Nat} {script rest : Script} {phase : Phase} {signal : Signal}
    (h : script.next? task phase = some (signal, rest)) : rest.size < script.size := by
  obtain ⟨outcomes, entries⟩ := script
  have houtcome : ∀ {signal rest}, nextOutcome? task ⟨outcomes, entries⟩ = some (signal, rest) →
      rest.size < size ⟨outcomes, entries⟩ := by
    intro signal rest h
    cases outcomes with
    | nil => exact nomatch h
    | cons outcome outcomes =>
      cases h
      simp only [size, List.length_cons]
      omega
  cases phase with
  | sending seen => exact houtcome h
  | loggingIn => exact houtcome h
  | atTurnstile seen => exact nomatch h
  | prompting =>
    cases entries with
    | nil => exact nomatch h
    | cons entered entries =>
      cases h
      simp only [size, List.length_cons]
      omega

end Script

/-- What has been played, seen together with what happened before it. -/
def playedAfter (events : List Event) (played : Workload × List Event) : Workload × List Event :=
  (played.1, events ++ played.2)

/-- Events are put in front of a play one by one or all at once. -/
theorem playedAfter_append (before events : List Event) (played : Workload × List Event) :
    playedAfter (before ++ events) played = playedAfter before (playedAfter events played) := by
  simp [playedAfter]

/-- Lets a task go on until its dispatch has ended or waits for something that is not in store. -/
def Workload.follow (w : Workload) (task : Nat) (script : Script) : Workload × List Event :=
  match w.find? task with
  | none => (w, [])
  | some d =>
    match _h : script.next? task d.phase with
    | none => (w, [])
    | some (signal, rest) =>
      match w.advance? signal with
      | none => (w, [])
      | some (next, events) => playedAfter events (next.follow task rest)
termination_by script.size
decreasing_by exact Script.size_lt_of_next? _h

namespace Workload

variable {w next : Workload} {task : Nat} {d : Dispatch} {script rest : Script} {signal : Signal}
  {events : List Event}

/-- A task without a dispatch is at its end. -/
theorem follow_of_find?_eq_none (h : w.find? task = none) : w.follow task script = (w, []) := by
  rw [follow, h]

/-- A dispatch for which nothing is in store stays where it is. -/
theorem follow_of_next?_eq_none (hfind : w.find? task = some d)
    (hnext : script.next? task d.phase = none) : w.follow task script = (w, []) := by
  rw [follow, hfind]
  dsimp only
  split
  · rfl
  · rename_i h
    exact nomatch hnext.symm.trans h

/-- Any other one goes on as far as the next answer or entry leads it. -/
theorem follow_of_advance? (hfind : w.find? task = some d)
    (hnext : script.next? task d.phase = some (signal, rest))
    (hadvance : w.advance? signal = some (next, events)) :
    w.follow task script = playedAfter events (next.follow task rest) := by
  rw [follow, hfind]
  dsimp only
  split
  · rename_i h
    exact nomatch hnext.symm.trans h
  · rename_i h
    cases hnext.symm.trans h
    rw [hadvance]

end Workload

/-- A dispatch from its beginning in a session at rest, with everything that it lets be seen. -/
def Errand.play (e : Errand) (site : ActiveSite) (generation : Nat) (script : Script) :
    Workload × List Event :=
  match (Workload.atRest site generation).advance? (.start e) with
  | none => (Workload.atRest site generation, [])
  | some (w, events) => playedAfter events (w.follow e.task script)

/-- Whatever has happened in a session before, a call that is made when nobody is in it is played as
in a session at rest. -/
theorem Run.played_of_empty {history : List Moment} {w : Workload} (h : Run history w)
    (hempty : w.dispatches = []) (e : Errand) (script : Script) :
    ((w.advance? (.start e)).elim (w, []) fun r => playedAfter r.2 (r.1.follow e.task script)) =
      e.play w.session.site w.session.generation script := by
  have hrest := Workload.eq_atRest_of_run h hempty
  generalize w.session.site = site at hrest ⊢
  generalize w.session.generation = generation at hrest ⊢
  subst hrest
  unfold Errand.play
  cases (Workload.atRest site generation).advance? (.start e) <;> rfl

/-! ### Every play has a course -/

/-- What has been played of a script, and what that has come to, is this course. -/
structure Course.Tells (c : Course) (e : Errand) (post : Credentials → Http.Request)
    (request : Http.Request) (armed : Bool) (site : ActiveSite) (generation : Nat)
    (script : Script) (played : Workload × List Event) : Prop where
  fits : c.Fits e.dispatcher
  outcomes : ∃ rest, script.outcomes = c.outcomes ++ rest ∧
    (c.last.awaitsOutcome = true → rest = [])
  entries : ∃ rest, script.entries = c.entries ++ rest ∧ (c.last.awaitsEntry = true → rest = [])
  events : played.2 = e.courseEvents post request armed c
  generation_eq : played.1.session.generation = c.generationAfter e generation
  atRest : (c.result? e.dispatcher.codec).isSome = true →
    played.1 = Workload.atRest site (c.generationAfter e generation)

namespace Course

variable {e : Errand} {post : Credentials → Http.Request} {request : Http.Request} {armed : Bool}
  {site : ActiveSite} {generation : Nat} {script : Script} {w : Workload} {events : List Event}
  {c : Course} {r : Round} {played : Workload × List Event}

/-- A round in front of a course is one course. -/
theorem Tells.cons (armed : Bool) (hr : r.Fits e.dispatcher)
    (h : c.Tells e post request true site (generation + 1) script played) :
    Tells ⟨r :: c.rounds, c.last⟩ e post request armed site generation
      ⟨r.outcomes ++ script.outcomes, r.entries ++ script.entries⟩
      (playedAfter (e.roundEvents post request r) played) where
  fits :=
    ⟨fun x hx => by
      rcases List.mem_cons.mp hx with rfl | hx
      · exact hr
      · exact h.fits.rounds x hx,
    h.fits.last⟩
  outcomes := by
    -- what the script has left over is left over by the course behind the round
    obtain ⟨rest, hrest, hnone⟩ := h.outcomes
    refine ⟨rest, ?_, hnone⟩
    rw [outcomes_cons, hrest, List.append_assoc]
  entries := by
    obtain ⟨rest, hrest, hnone⟩ := h.entries
    refine ⟨rest, ?_, hnone⟩
    rw [entries_cons, hrest, List.append_assoc]
  events := by
    rw [playedAfter, h.events]
    simp [Errand.courseEvents]
  generation_eq := by
    rw [generationAfter_cons]
    exact h.generation_eq
  atRest hsome := by
    rw [generationAfter_cons]
    exact h.atRest hsome

/-- A course without rounds, at its end. -/
theorem Tells.of_last {last : Last} (hfits : last.Fits e.dispatcher)
    (houtcomes : ∃ rest, script.outcomes = last.outcomes ++ rest ∧
      (last.awaitsOutcome = true → rest = []))
    (hentries : ∃ rest, script.entries = last.entries ++ rest ∧
      (last.awaitsEntry = true → rest = []))
    (hevents : events = e.lastEvents post armed last)
    (hgeneration : w.session.generation = generationAfter ⟨[], last⟩ e generation)
    (hatRest : (last.result? e.dispatcher.codec).isSome = true →
      w = Workload.atRest site (generationAfter ⟨[], last⟩ e generation)) :
    Tells ⟨[], last⟩ e post request armed site generation script (w, events) where
  fits := ⟨fun r hr => (nomatch hr), hfits⟩
  outcomes := houtcomes
  entries := hentries
  events := by
    rw [hevents]
    simp [Errand.courseEvents]
  generation_eq := hgeneration
  atRest := hatRest

end Course

namespace Errand

variable {e : Errand} {post : Credentials → Http.Request} {request : Http.Request} {armed : Bool}
  {site : ActiveSite} {generation : Nat} {script : Script}

/-- A dispatch that has ended has nothing more to be seen. -/
theorem follow_atRest : (Workload.atRest site generation).follow e.task script =
    (Workload.atRest site generation, []) :=
  Workload.follow_of_find?_eq_none rfl

section
variable {outcomes : List (Except TransportError Http.Response)}
  {entries : List (Option Credentials)} {marked : Bool}
  (hpost : ∀ c : Credentials, e.dispatcher.api.request e.dispatcher.codec site.id?
    (c.login e.dispatcher.api.authEndpoint) = .ok (post c))
  (hrequest : e.dispatcher.api.request e.dispatcher.codec site.id? e.call = .ok request)

include hpost in
/-- What is entered into the dialog is posted. -/
theorem follow_entered (c : Credentials) :
    (e.soloDialog site generation marked .prompting).follow e.task ⟨outcomes, some c :: entries⟩ =
      playedAfter [.sent e.task (post c)]
        ((e.soloDialog site generation true .loggingIn).follow e.task ⟨outcomes, entries⟩) :=
  Workload.follow_of_advance? find?_soloDialog rfl (advance?_entered (hpost c))

include hrequest in
/-- After a login that succeeds the dispatch waits for the answer to its request again. -/
theorem follow_loggedIn {outcome : Except TransportError Http.Response}
    (h : e.dispatcher.codec.accepts outcome = true) :
    (e.soloDialog site generation true .loggingIn).follow e.task ⟨outcome :: outcomes, entries⟩ =
      playedAfter (e.tells true outcome ++ [.sent e.task request])
        ((e.soloSending site (generation + 1) true).follow e.task ⟨outcomes, entries⟩) :=
  Workload.follow_of_advance? find?_soloDialog rfl (advance?_loggedIn hrequest h)

/-- After a login that fails the operator is asked again. -/
theorem follow_notLoggedIn {outcome : Except TransportError Http.Response}
    (hattended : e.dispatcher.attended = true) (h : e.dispatcher.codec.accepts outcome = false) :
    (e.soloDialog site generation true .loggingIn).follow e.task ⟨outcome :: outcomes, entries⟩ =
      playedAfter
        (e.tells true outcome ++ [.asked e.task (some (failureText e.dispatcher.codec outcome))])
        ((e.soloDialog site generation (demandsLogin outcome) .prompting).follow e.task
          ⟨outcomes, entries⟩) :=
  Workload.follow_of_advance? find?_soloDialog rfl (advance?_notLoggedIn hattended h)

section
variable {demand : Except TransportError Http.Response} {failed : List Attempt}
  (hattended : e.dispatcher.attended = true) (hdemand : demandsLogin demand = true)
  (hfailed : Attempt.AllFailed e.dispatcher.codec failed)

include hattended hdemand hfailed in
/-- The dialog is open, and the operator has entered nothing more. -/
theorem tells_asking :
    Course.Tells ⟨[], .inDialog demand failed .asking⟩ e post request armed site generation
      ⟨demand :: Attempt.outcomes failed ++ outcomes, Attempt.entries failed ++ []⟩
      (playedAfter (e.dialogEvents post failed)
        ((e.soloDialog site generation marked .prompting).follow e.task ⟨outcomes, []⟩)) := by
  rw [Workload.follow_of_next?_eq_none find?_soloDialog rfl]
  refine .of_last ⟨hdemand, hfailed, hattended⟩ ⟨outcomes, rfl, nofun⟩ ⟨[], ?_, fun _ => rfl⟩
    (List.append_nil _) rfl nofun
  simp only [Course.Last.entries, Stop.entries, List.append_nil]

include hattended hdemand hfailed in
/-- The operator has dismissed the dialog, which ends the dispatch. -/
theorem tells_dismissed :
    Course.Tells ⟨[], .inDialog demand failed .dismissed⟩ e post request armed site generation
      ⟨demand :: Attempt.outcomes failed ++ outcomes, Attempt.entries failed ++ none :: entries⟩
      (playedAfter (e.dialogEvents post failed)
        ((e.soloDialog site generation marked .prompting).follow e.task
          ⟨outcomes, none :: entries⟩)) := by
  rw [Workload.follow_of_advance? find?_soloDialog rfl advance?_dismissed, follow_atRest]
  refine .of_last ⟨hdemand, hfailed, hattended⟩ ⟨outcomes, rfl, nofun⟩ ⟨entries, ?_, nofun⟩ ?_
    (Course.generationAfter_abandoned rfl).symm fun _ => ?_
  · simp only [Course.Last.entries, Stop.entries, List.append_assoc, List.singleton_append]
  · simp only [playedAfter, lastEvents, List.append_nil]
  · rw [Course.generationAfter_abandoned rfl]
    rfl

include hpost hattended hdemand hfailed in
/-- A login has been posted out of the dialog, and its answer is not in store. -/
theorem tells_loggingIn (c : Credentials) :
    Course.Tells ⟨[], .inDialog demand failed (.loggingIn c)⟩ e post request armed site generation
      ⟨demand :: Attempt.outcomes failed ++ [], Attempt.entries failed ++ some c :: entries⟩
      (playedAfter (e.dialogEvents post failed)
        ((e.soloDialog site generation marked .prompting).follow e.task
          ⟨[], some c :: entries⟩)) := by
  rw [follow_entered hpost, Workload.follow_of_next?_eq_none find?_soloDialog rfl]
  refine .of_last ⟨hdemand, hfailed, hattended⟩ ⟨[], rfl, fun _ => rfl⟩ ⟨entries, ?_, nofun⟩ rfl
    rfl nofun
  simp only [Course.Last.entries, Stop.entries, List.append_assoc, List.singleton_append]

include hpost hrequest hattended hdemand hfailed in
/-- A login that succeeds completes a round, and what follows is the course of a dispatch that
waits for the answer to its request. -/
theorem exists_course_loggedIn {c : Credentials}
    {outcome : Except TransportError Http.Response}
    (h : e.dispatcher.codec.accepts outcome = true)
    (hrest : ∃ course : Course, course.Tells e post request true site (generation + 1)
      ⟨outcomes, entries⟩
      ((e.soloSending site (generation + 1) true).follow e.task ⟨outcomes, entries⟩)) :
    ∃ course : Course, course.Tells e post request armed site generation
      ⟨demand :: Attempt.outcomes failed ++ outcome :: outcomes,
        Attempt.entries failed ++ some c :: entries⟩
      (playedAfter (e.dialogEvents post failed)
        ((e.soloDialog site generation marked .prompting).follow e.task
          ⟨outcome :: outcomes, some c :: entries⟩)) := by
  obtain ⟨course, htells⟩ := hrest
  have hround : Round.Fits ⟨demand, failed, ⟨c, outcome⟩⟩ e.dispatcher :=
    ⟨hattended, hdemand, hfailed, h⟩
  refine ⟨⟨⟨demand, failed, ⟨c, outcome⟩⟩ :: course.rounds, course.last⟩, ?_⟩
  have hcons := htells.cons armed hround
  rw [follow_entered hpost, follow_loggedIn hrequest h, ← playedAfter_append, ← playedAfter_append]
  simpa only [Round.outcomes, Round.entries, roundEvents, attemptEvents, Attempt.outcomes,
    Attempt.entries, List.map_append, List.map_cons, List.map_nil, List.append_assoc,
    List.cons_append, List.nil_append] using hcons

end

include hpost hrequest in
/-- A dispatch that waits for the answer to its request has a course, and so has one that is in its
dialog after a demand to log in and some logins that have failed. -/
theorem exists_course (outcomes : List (Except TransportError Http.Response)) :
    (∀ entries generation armed, ∃ c : Course, c.Tells e post request armed site generation
      ⟨outcomes, entries⟩
      ((e.soloSending site generation armed).follow e.task ⟨outcomes, entries⟩)) ∧
    (e.dispatcher.attended = true → ∀ entries generation armed marked demand failed,
      demandsLogin demand = true → Attempt.AllFailed e.dispatcher.codec failed →
      ∃ c : Course, c.Tells e post request armed site generation
        ⟨demand :: Attempt.outcomes failed ++ outcomes, Attempt.entries failed ++ entries⟩
        (playedAfter (e.dialogEvents post failed)
          ((e.soloDialog site generation marked .prompting).follow e.task
            ⟨outcomes, entries⟩))) := by
  -- both states use up the same answers, so one induction on them serves both; what is entered, the
  -- generation and the logins that have failed change on the way
  induction outcomes with
  | nil =>
    constructor
    · intro entries generation armed
      refine ⟨⟨[], .unanswered⟩, ?_⟩
      rw [Workload.follow_of_next?_eq_none find?_soloSending rfl]
      exact .of_last trivial ⟨[], rfl, fun _ => rfl⟩ ⟨entries, rfl, fun h => by cases h⟩ rfl rfl
        fun h => by cases h
    · intro hattended entries generation armed marked demand failed hdemand hfailed
      match entries with
      | [] => exact ⟨_, tells_asking hattended hdemand hfailed⟩
      | none :: _ => exact ⟨_, tells_dismissed hattended hdemand hfailed⟩
      | some c :: _ => exact ⟨_, tells_loggingIn hpost hattended hdemand hfailed c⟩
  | cons outcome outcomes ih =>
    obtain ⟨ihsending, ihdialog⟩ := ih
    constructor
    · intro entries generation armed
      cases hdemand : demandsLogin outcome with
      | false =>
        refine ⟨⟨[], .answered outcome⟩, ?_⟩
        rw [Workload.follow_of_advance? find?_soloSending rfl (advance?_ended hdemand),
          follow_atRest]
        refine .of_last hdemand ⟨outcomes, rfl, fun h => by cases h⟩
          ⟨entries, rfl, fun h => by cases h⟩ ?_ rfl fun _ => rfl
        simp only [lastEvents, tells, List.append_nil]
      | true =>
        -- a demand to log in opens the dialog, if there is somebody to ask
        cases hattended : e.dispatcher.attended with
        | false =>
          refine ⟨⟨[], .unattended outcome⟩, ?_⟩
          rw [Workload.follow_of_advance? find?_soloSending rfl
            (advance?_unattended hattended hdemand), follow_atRest]
          refine .of_last ⟨hdemand, hattended⟩ ⟨outcomes, rfl, fun h => by cases h⟩
            ⟨entries, rfl, fun h => by cases h⟩ (List.append_nil _)
            (Course.generationAfter_abandoned rfl).symm fun _ => ?_
          rw [Course.generationAfter_abandoned rfl]
        | true =>
          rw [Workload.follow_of_advance? find?_soloSending rfl
            (advance?_demanded hattended hdemand)]
          exact ihdialog hattended entries generation armed true outcome [] hdemand
            fun a ha => by cases ha
    · intro hattended entries generation armed marked demand failed hdemand hfailed
      match entries with
      | [] => exact ⟨_, tells_asking hattended hdemand hfailed⟩
      | none :: _ => exact ⟨_, tells_dismissed hattended hdemand hfailed⟩
      | some c :: entries =>
        cases haccepts : e.dispatcher.codec.accepts outcome with
        | true =>
          -- the round is complete, and the rest begins with its request sent again
          exact exists_course_loggedIn hpost hrequest hattended hdemand hfailed haccepts
            (ihsending entries (generation + 1) true)
        | false =>
          -- one more login has failed, and the operator is asked again
          have hfailed' : Attempt.AllFailed e.dispatcher.codec (failed ++ [⟨c, outcome⟩]) := by
            intro a ha
            rcases List.mem_append.mp ha with ha | ha
            · exact hfailed a ha
            · rw [List.mem_singleton.mp ha]
              exact haccepts
          obtain ⟨course, htells⟩ := ihdialog hattended entries generation armed
            (demandsLogin outcome) demand (failed ++ [⟨c, outcome⟩]) hdemand hfailed'
          refine ⟨course, ?_⟩
          rw [follow_entered hpost, follow_notLoggedIn hattended haccepts, ← playedAfter_append,
            ← playedAfter_append]
          simpa only [dialogEvents_concat, attemptEvents, Attempt.outcomes, Attempt.entries,
            List.map_append, List.map_cons, List.map_nil, List.append_assoc, List.cons_append,
            List.nil_append] using htells

end

/-- A play is the course of a dispatch, unless the call has no request. That needs a codec other
than the standard one. -/
theorem exists_play (e : Errand) (site : ActiveSite) (generation : Nat) (script : Script) :
    ∃ post : Credentials → Http.Request,
      (∀ c, e.dispatcher.api.request e.dispatcher.codec site.id?
        (c.login e.dispatcher.api.authEndpoint) = .ok (post c)) ∧
      ((∃ request,
          e.dispatcher.api.request e.dispatcher.codec site.id? e.call = .ok request ∧
          ∃ (c : Course) (played : Workload × List Event),
            c.Tells e post request e.authenticates site generation script played ∧
            e.play site generation script =
              playedAfter [.loading e.front true, .sent e.task request] played) ∨
        (e.dispatcher.codec ≠ .standard ∧ ∃ cause,
          e.dispatcher.api.request e.dispatcher.codec site.id? e.call = .error cause ∧
          e.play site generation script = (Workload.atRest site generation,
            .loading e.front true :: e.soloEnd (.error (.encode cause))))) := by
  have hlogin := fun c => e.dispatcher.api.exists_login e.dispatcher.codec site.id? c
  refine ⟨fun c => (hlogin c).choose, fun c => (hlogin c).choose_spec, ?_⟩
  unfold play
  cases hrequest : e.dispatcher.api.request e.dispatcher.codec site.id? e.call with
  | ok request =>
    -- a play with a request is its first event and the course that the script makes of it
    obtain ⟨outcomes, entries⟩ := script
    obtain ⟨c, htells⟩ := (exists_course (fun c => (hlogin c).choose_spec) hrequest outcomes).1
      entries generation e.authenticates
    refine .inl ⟨request, rfl, c, _, htells, ?_⟩
    rw [advance?_start hrequest]
  | error cause =>
    refine .inr ⟨?_, cause, rfl, ?_⟩
    · intro hstandard
      obtain ⟨request, hok⟩ := e.dispatcher.api.exists_request site.id? e.call
      rw [hstandard] at hrequest
      exact nomatch hok.symm.trans hrequest
    · rw [advance?_start_error hrequest]
      show playedAfter _ (Workload.follow _ _ _) = _
      rw [follow_atRest]
      rfl

/-- The shape of a whole dispatch that is alone in its session.

Whatever is in store for it, what happens is a course: the request of the call is sent, each answer
that demands a login is met by a round or by the end of a dialog, and what is seen, in order, is
what the course tells. A round asks, posts what is entered, and asks again with the reason why until
a login succeeds, and then the request is sent once more. The course takes its answers from what is
in store, in order, and stops only where the next one is missing. When it is over, the session is at
rest, and the generation has grown by the logins. The front end shows that something is going on
from the beginning to the end, and the caller is called back with the body, or with the error that
the server has reported, and with nothing else.

A call without a request has no course. It ends at once, and there is no such call for the standard
codec. -/
theorem play_shape (e : Errand) (site : ActiveSite) (generation : Nat) (script : Script) :
    ∃ post : Credentials → Http.Request,
      (∀ c, e.dispatcher.api.request e.dispatcher.codec site.id?
        (c.login e.dispatcher.api.authEndpoint) = .ok (post c)) ∧
      ((∃ request,
          e.dispatcher.api.request e.dispatcher.codec site.id? e.call = .ok request ∧
          ∃ (c : Course) (played : Workload × List Event),
            c.Tells e post request e.authenticates site generation script played ∧
            e.play site generation script =
              playedAfter [.loading e.front true, .sent e.task request] played ∧
            (e.play site generation script).2.filterMap Event.shown? =
              true :: (c.result? e.dispatcher.codec).toList.map (fun _ => false) ∧
            ∀ wantsFailures,
              (e.play site generation script).2.filterMap (·.callback? e.task wantsFailures) =
                c.callbacks e.dispatcher.codec wantsFailures) ∨
        (e.dispatcher.codec ≠ .standard ∧ ∃ cause,
          e.dispatcher.api.request e.dispatcher.codec site.id? e.call = .error cause ∧
          e.play site generation script = (Workload.atRest site generation,
            .loading e.front true :: e.soloEnd (.error (.encode cause))))) := by
  obtain ⟨post, hpost, ⟨request, hrequest, c, played, htells, hplay⟩ | hnone⟩ :=
    e.exists_play site generation script
  · refine ⟨post, hpost, .inl ⟨request, hrequest, c, played, htells, hplay, ?_, ?_⟩⟩
    · -- the shape is that of the events of the course, one lemma for each view of them
      rw [hplay, playedAfter, htells.events]
      exact congrArg (true :: ·) (shown?_courseEvents c)
    · intro wantsFailures
      rw [hplay, playedAfter, htells.events]
      exact callback?_courseEvents wantsFailures c
  · exact ⟨post, hpost, .inr hnone⟩

end Errand

end Courier
