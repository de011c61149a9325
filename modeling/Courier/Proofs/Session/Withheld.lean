import Courier.Proofs.Session.Coalescing
import Courier.Proofs.Session.LoginMark

/-!
# `Courier.Proofs.Session.Withheld`: how long the mark of a login protects a dispatch

An error that the server reports to a call that logs in is for the caller, and so is one that it
reports to a request that is sent again after a login. Before it sends such a request, a dispatch
marks the session, and while the session is marked the operator is told of no such error.

The mark is one for all dispatches, though, and whoever leaves the session clears it
(`Moment.clears`), no matter who has set it. So the protection lasts until another dispatch leaves,
and no longer: a dispatch that is armed finds the session marked, or another one has left since it
sent its request (`Run.authenticating_or_cleared`). The login out of its own dialog is safe in any
case, as a dialog that is open counts like a mark.

* `Run.withheld_until_cleared`: nothing is told of an error as long as no other dispatch leaves.
* `Run.told_once_cleared`: it is told if another one has left.
-/

set_option autoImplicit false

namespace Courier

/-- Whether a dispatch has ended. -/
def Event.isEnd : Event → Bool
  | .ended _ _ => true
  | _ => false

/-- Whether the operator is told something. -/
def Event.isNotice : Event → Bool
  | .notice _ _ _ => true
  | _ => false

/-- Whether a dispatch leaves the session and clears its mark: it ends, or it is dropped while it is
armed. -/
def Moment.clears (m : Moment) : Bool :=
  m.events.any (·.isEnd) ||
    match m.signal with
    | .drop _ => m.dispatch?.any (·.armed)
    | _ => false

/-- Another dispatch has left the session since a task has sent its request. -/
def ClearedSince (history : List Moment) (task : Nat) : Prop :=
  ∃ x ∈ since task history, x.clears = true ∧ x.signal.task? ≠ some task

/-! ### What a run of a dispatch leaves of the mark -/

namespace Session

variable {s : Session}

/-- A session that is marked is authenticating. -/
theorem authenticating_mark : (s.mark true).authenticating = true := rfl

/-- So is one with an open dialog. -/
theorem authenticating_of_dialogsOpen (h : 0 < s.dialogsOpen) : s.authenticating = true := by
  simp [authenticating, h]

end Session

/-- A stretch after which the dispatch has ended, or a login is under way: its own, if it is in its
dialog, or one that it has marked the session for. -/
def Stretch.EndsOrMarks (t : Stretch) : Prop :=
  t.next? = none ∧ t.events.any (·.isEnd) = true ∨ t.session.authenticating = true

/-- Events in front of a stretch make no difference to this. -/
theorem Stretch.EndsOrMarks.after {t : Stretch} (h : t.EndsOrMarks) (events : List Event) :
    (t.after events).EndsOrMarks := by
  refine h.imp (fun ⟨hnext, hend⟩ => ⟨hnext, ?_⟩) id
  rw [Stretch.events_after, List.any_append, hend, Bool.or_true]

namespace Errand

variable {e : Errand} {s : Session}

/-- A dispatch that finishes has ended. -/
theorem finish_ends (e : Errand) (result : Except CallError Value) (s : Session) :
    (e.finish result s).EndsOrMarks := by
  refine .inl ⟨rfl, ?_⟩
  show ((e.depart (s.mark false)).2 ++ [Event.ended e.task result]).any (·.isEnd) = true
  rw [List.any_append]
  exact Bool.or_true _

/-- Sending does not clear the mark. -/
theorem send_marks (armed : Bool) (h : s.authenticating = true ∨ e.authenticates = true) :
    (e.send armed s).EndsOrMarks := by
  unfold send
  split
  · exact e.finish_ends _ s
  · refine .inr ?_
    dsimp only
    split
    case isTrue => exact Session.authenticating_mark
    case isFalse hnot => exact h.resolve_right hnot

/-- A dispatch that begins leaves the session marked if it is, and marks it if it logs in. -/
theorem start_marks (h : s.authenticating = true ∨ e.authenticates = true) :
    (e.start s).EndsOrMarks := by
  unfold start
  refine (send_marks _ (h.imp_left fun hmarked => ?_)).after _
  split
  · exact Session.authenticating_mark
  · exact hmarked

/-- A dispatch that asks is in its dialog. -/
theorem ask_marks (lastError : Option String) (hopen : 0 < s.dialogsOpen) :
    (e.ask lastError s).EndsOrMarks := by
  unfold ask
  split
  · exact .inr (Session.authenticating_of_dialogsOpen hopen)
  · exact e.finish_ends _ _

/-- Inside the turnstile a dispatch opens its dialog, or sends its request again. -/
theorem admitted_marks (e : Errand) (seen : Nat) (s : Session) :
    (e.admitted seen s).EndsOrMarks := by
  unfold admitted
  split
  · exact ask_marks none (Nat.succ_pos _)
  · exact send_marks true (.inl Session.authenticating_mark)

end Errand

namespace Dispatch

variable {s : Session} {d : Dispatch} {signal : Signal} {t : Stretch}

/-- A dispatch that has run has ended or marked the session, unless it has been dropped. -/
theorem Runs.endsOrMarks (h : d.Runs s signal t)
    (hopen : d.phase.inDialog = true → 0 < s.dialogsOpen) :
    t.EndsOrMarks ∨
      signal = .drop d.errand.task ∧ t = ⟨(d.drop s).1, (d.drop s).2, none⟩ := by
  cases h with
  | received e armed seen outcome =>
    refine .inl ?_
    unfold Errand.receive
    split
    · -- it is asked to log in, and goes to the turnstile with the session marked
      unfold Errand.requireLogin
      dsimp only
      split
      · exact e.admitted_marks seen _
      · exact .inr Session.authenticating_mark
    · exact (e.finish_ends _ s).after _
  | loggedIn e armed outcome =>
    refine .inl ?_
    unfold Errand.loggedIn
    split
    · exact Errand.ask_marks _ (hopen rfl)
    · refine Stretch.EndsOrMarks.after ?_ _
      split
      · exact Errand.send_marks true (.inl Session.authenticating_mark)
      · -- the login has cleared the mark, but the dialog is still open
        exact Errand.ask_marks _ (hopen rfl)
  | answered e armed entered =>
    refine .inl ?_
    unfold Errand.answered
    split
    · exact e.finish_ends _ _
    · dsimp only
      split
      · exact Errand.ask_marks _ (hopen rfl)
      · exact .inr Session.authenticating_mark
  | admitted e armed seen hinside => exact .inl (e.admitted_marks seen s)
  | dropped => exact .inr ⟨rfl, rfl⟩

/-- A dispatch that goes on leaves the session with a login under way. -/
theorem Runs.authenticating {next : Dispatch} (h : d.Runs s signal t) (hnext : t.next? = some next)
    (hopen : d.phase.inDialog = true → 0 < s.dialogsOpen) :
    t.session.authenticating = true := by
  obtain (⟨hnone, -⟩ | hmarked) | ⟨-, rfl⟩ := h.endsOrMarks hopen
  · exact nomatch hnone.symm.trans hnext
  · exact hmarked
  · exact nomatch hnext

/-- A dispatch that is not armed leaves the session as marked as it is when it is dropped. -/
theorem authenticating_drop (harmed : d.armed = false)
    (hline : d.phase.inLine = true → d.armed = true) :
    (d.drop s).1.authenticating = s.authenticating := by
  obtain ⟨e, armed, phase⟩ := d
  obtain rfl : armed = false := harmed
  cases phase with
  | sending seen => rfl
  | atTurnstile seen => exact nomatch hline rfl
  | prompting => exact nomatch hline rfl
  | loggingIn => exact nomatch hline rfl

end Dispatch

namespace Moment

variable {m : Moment}

/-- Unless a dispatch leaves the session, a login that is under way stays so. -/
theorem Kind.authenticating (h : m.Kind) (horderly : Orderly m.before.session m.before.dispatches)
    (hkeeps : m.clears = false) (hbefore : m.before.session.authenticating = true) :
    m.after.session.authenticating = true := by
  obtain ⟨hends, hdrops⟩ := Bool.or_eq_false_iff.mp hkeeps
  cases h with
  | began e hm =>
    rw [hm.session]
    obtain ⟨-, hended⟩ | hmarked := Errand.start_marks (.inl hbefore)
    · rw [hm.events, hended] at hends
      exact nomatch hends
    · exact hmarked
  | ran d t hm =>
    have hd := Workload.mem_of_find? hm.find?_before
    rw [hm.session]
    obtain (⟨-, hended⟩ | hmarked) | ⟨hsignal, rfl⟩ :=
      hm.runs.endsOrMarks (horderly.dialogsOpen_pos hd)
    · rw [hm.events, hended] at hends
      exact nomatch hends
    · exact hmarked
    · -- nobody clears the mark who is not armed
      rw [hm.dispatch?, hsignal] at hdrops
      exact (Dispatch.authenticating_drop hdrops (horderly.armed d hd)).trans hbefore
  | switched site hm =>
    rw [hm.after]
    exact hbefore

end Moment

/-! ### How long a dispatch is protected -/

namespace Run

variable {history : List Moment} {w : Workload} {d : Dispatch}

/-- A login is under way for every dispatch that is armed, or another one has left the session since
it has sent its request. -/
theorem authenticating_or_cleared (h : Run history w) (hd : d ∈ w.dispatches)
    (harmed : d.armed = true) :
    w.session.authenticating = true ∨ ClearedSince history d.errand.task := by
  induction h generalizing d with
  | idle site => exact nomatch hd
  | @step past m hrun hfresh hstep ih =>
    have hkind := (Run.step hrun hfresh hstep).kind
    cases hkind.origin hd with
    | stayed hmem hother =>
      -- whoever else has run, the dispatch has not sent its request in this moment
      have hquiet : m.sends d.errand.task = false := by
        by_contra hsends
        exact hother (hkind.task?_of_sends (by simpa using hsends))
      rw [ClearedSince, since_cons_of_not_sends hquiet]
      cases hclears : m.clears with
      | true => exact .inr ⟨m, List.mem_cons_self, hclears, hother⟩
      | false =>
        refine (ih hmem harmed).imp (hkind.authenticating hrun.orderly hclears) ?_
        rintro ⟨x, hx, hcleared⟩
        exact ⟨x, List.mem_cons_of_mem _ hx, hcleared⟩
    | began e hm hnow hsent hfind =>
      -- it is armed from the beginning only if its call logs in, and then it has marked the session
      subst hnow
      have hnext := hm.find?_after.symm.trans hfind
      refine .inl ?_
      rw [hm.session]
      obtain ⟨hnone, -⟩ | hmarked := Errand.start_marks (.inr harmed)
      · exact nomatch hnone.symm.trans hnext
      · exact hmarked
    | ran c t hm hnext =>
      -- it has run itself and goes on
      have hc := Workload.mem_of_find? hm.find?_before
      refine .inl ?_
      rw [hm.session]
      exact hm.runs.authenticating hnext (hrun.orderly.dialogsOpen_pos hc)

end Run

/-! ### What the operator is told of an error that the server reports -/

/-- A dispatch that finishes tells the operator nothing more. -/
theorem Errand.finish_quiet (e : Errand) (result : Except CallError Value) (s : Session) :
    ∀ event ∈ (e.finish result s).events, event.isNotice = false := by
  have hdepart : ∀ event ∈ (e.depart (s.mark false)).2, event.isNotice = false := by
    unfold depart
    dsimp only
    split
    · intro event hevent
      rw [List.mem_singleton.mp hevent]
      rfl
    · exact nofun
  intro event hevent
  rcases List.mem_append.mp hevent with hevent | hevent
  · exact hdepart event hevent
  · rw [List.mem_singleton.mp hevent]
    rfl

/-- Nor does one that asks for a login: a question is no notice. -/
theorem Errand.ask_quiet (e : Errand) (lastError : Option String) (s : Session) :
    ∀ event ∈ (e.ask lastError s).events, event.isNotice = false := by
  unfold ask
  split
  · intro event hevent
    rw [List.mem_singleton.mp hevent]
    rfl
  · exact e.finish_quiet _ _

/-- While a login is under way, the operator is told nothing of an error that the server reports. -/
theorem Workload.quiet_of_authenticating {w next : Workload} {d : Dispatch} {r : Http.Response}
    {events : List Event} (hfind : w.find? d.errand.task = some d)
    (hstep : w.step? (.answer d.errand.task (.ok r)) = some (next, events))
    (h200 : r.status ≠ 200) (h403 : r.status ≠ 403) (hlogin : w.session.authenticating = true) :
    ∀ event ∈ events, event.isNotice = false := by
  have hverdict : Verdict.of d.errand.dispatcher.codec w.session.authenticating (.ok r) = _ :=
    Verdict.of_refused h200 h403
  rw [if_pos hlogin] at hverdict
  obtain ⟨e, armed, phase⟩ := d
  obtain ⟨c, hc, hstep⟩ := Option.bind_eq_some_iff.mp hstep
  cases hc.symm.trans hfind
  -- an answer is taken in two phases, and in both the verdict has no notices
  cases phase with
  | sending seen =>
    cases hstep
    show ∀ event ∈ (e.receive seen (.ok r) w.session).events, event.isNotice = false
    rw [Errand.receive, hverdict]
    exact e.finish_quiet _ _
  | atTurnstile seen => cases hstep
  | prompting => cases hstep
  | loggingIn =>
    cases hstep
    show ∀ event ∈ (e.loggedIn (.ok r) w.session).events, event.isNotice = false
    rw [Errand.loggedIn, hverdict]
    exact e.ask_quiet _ _

namespace Run

variable {history : List Moment} {w : Workload} {d : Dispatch}

/-- How long an error that the server reports is withheld from the operator.

For every dispatch whose call logs in or which has been asked to, a login is under way from its last
request on, until another dispatch leaves the session. Until then the operator is told nothing of an
error that the server reports to it, and nothing in any case of one that the server reports to the
login out of its dialog. What decides is the mark: the error is told exactly if no login is under
way. -/
theorem withheld_until_cleared (h : Run history w) (hd : d ∈ w.dispatches)
    (hlogin : d.errand.authenticates = true ∨ AskedToLogIn history d.errand.task) :
    (w.session.authenticating = true ∨ ClearedSince history d.errand.task) ∧
    ∀ (r : Http.Response) next events,
      w.step? (.answer d.errand.task (.ok r)) = some (next, events) →
      r.status ≠ 200 → r.status ≠ 403 →
      ((∀ event ∈ events, event.isNotice = false) ∨
        d.phase.inDialog = false ∧ ClearedSince history d.errand.task) ∧
      (.notice d.errand.front d.errand.task
          (.ofError (.refused r.status (Text.lossy r.body))) ∈ events ↔
        w.session.authenticating = false) := by
  have horderly := h.orderly
  have hfind := Workload.find?_of_mem horderly.tasks hd
  have hmarked := h.authenticating_or_cleared hd ((h.armed_iff hd).mpr hlogin)
  refine ⟨hmarked, fun r next events hstep h200 h403 => ⟨?_, ?_⟩⟩
  · have hquiet := Workload.quiet_of_authenticating hfind hstep h200 h403
    cases hdialog : d.phase.inDialog with
    | true =>
      -- nobody else can close its dialog
      refine .inl (hquiet ?_)
      exact Session.authenticating_of_dialogsOpen (horderly.dialogsOpen_pos hd hdialog)
    | false => exact hmarked.imp hquiet fun hcleared => ⟨rfl, hcleared⟩
  · constructor
    · intro htold
      by_contra hmark
      have hquiet := Workload.quiet_of_authenticating hfind hstep h200 h403 (by simpa using hmark)
      exact nomatch hquiet _ htold
    · intro hunmarked
      refine (Workload.notice_or_authenticating hfind hstep h200 h403).resolve_right ?_
      rw [hunmarked]
      exact nofun

/-- The first of two tasks is asked to log in, logs in, and sends its request again. -/
def resent : List Signal :=
  [.start (.reading 0), .start (.reading 1), .answer 0 (.ok ⟨403, []⟩),
    .credentials 0 (some ⟨"me", "secret"⟩), .answer 0 (.ok ⟨200, [0x80]⟩)]

/-- As long as the second task goes on, the operator is not told that the server reports an error to
the first one. -/
theorem withheld_until_cleared_resent :
    ∃ history w d next events, replay? [] {} resent = some (history, w) ∧ Run history w ∧
      d ∈ w.dispatches ∧ d.phase = .sending 1 ∧ AskedToLogIn history d.errand.task ∧
      w.session.authenticating = true ∧
      w.step? (.answer d.errand.task (.ok ⟨500, []⟩)) = some (next, events) ∧
      .notice d.errand.front d.errand.task (.ofError (.refused 500 (Text.lossy []))) ∉ events := by
  have hvalues : (replay? [] {} resent).map (fun (_, w) =>
      (w.dispatches.any fun d =>
          d.armed && !d.errand.authenticates && decide (d.phase = .sending 1),
        w.session.authenticating)) = some (true, true) := by
    cbv
  obtain ⟨⟨history, w⟩, hreplay, hvalues⟩ := Option.map_eq_some_iff.mp hvalues
  simp only [Prod.mk.injEq, List.any_eq_true, Bool.and_eq_true, Bool.not_eq_true',
    decide_eq_true_eq] at hvalues
  obtain ⟨⟨⟨e, armed, phase⟩, hd, ⟨rfl, hcall⟩, rfl⟩, hmarked⟩ := hvalues
  have hrun := Run.of_replay? (.idle {}) hreplay
  -- the call does not log in by itself, so it is armed because it has been asked to
  have hlogin := (hrun.armed_iff hd).mp rfl
  have hasked := hlogin.resolve_left (by simp [hcall])
  have hfind := Workload.find?_of_mem hrun.orderly.tasks hd
  have hstep := Workload.step?_eq_some_iff.mpr (.ran hfind (.received e true 1 (.ok ⟨500, []⟩)))
  refine ⟨history, w, _, _, _, hreplay, hrun, hd, rfl, hasked, hmarked, hstep, fun htold => ?_⟩
  have haccount := (Run.withheld_until_cleared hrun hd hlogin).2 ⟨500, []⟩ _ _ hstep (by decide)
    (by decide)
  exact absurd (haccount.2.mp htold) (by simp [hmarked])

/-- It is not withheld for good. When the second task has ended, an error that the server reports to
the first one is told, although it has logged in and sent its request again. -/
theorem told_once_cleared :
    ¬ ∀ (history : List Moment) (w : Workload), Run history w → ∀ d ∈ w.dispatches,
      (∃ m ∈ history, m.wins? = some d.errand.task) →
      ∀ (r : Http.Response) next events,
        w.step? (.answer d.errand.task (.ok r)) = some (next, events) →
        r.status ≠ 200 → r.status ≠ 403 → ∀ event ∈ events, event.isNotice = false := by
  intro hwithheld
  have hvalues : (replay? [] {} (resent ++ [.answer 1 (.ok ⟨200, [0x80]⟩)])).map
      (fun (history, w) => (w.dispatches.any fun d =>
          decide (d.errand.task = 0) && decide (d.phase = .sending 1),
        history.any (·.wins? = some 0), w.session.authenticating)) = some (true, true, false) := by
    cbv
  obtain ⟨⟨history, w⟩, hreplay, hvalues⟩ := Option.map_eq_some_iff.mp hvalues
  simp only [Prod.mk.injEq, List.any_eq_true, Bool.and_eq_true, decide_eq_true_eq] at hvalues
  obtain ⟨⟨d, hd, htask, hphase⟩, hwins, hunmarked⟩ := hvalues
  have hrun := Run.of_replay? (.idle {}) hreplay
  have hfind := Workload.find?_of_mem hrun.orderly.tasks hd
  -- the mark is clear by now, so the first task is told of its 500
  obtain ⟨e, armed, phase⟩ := d
  obtain rfl : phase = .sending 1 := hphase
  have hstep := Workload.step?_eq_some_iff.mpr (.ran hfind (.received e armed 1 (.ok ⟨500, []⟩)))
  rw [← htask] at hwins
  have hquiet := hwithheld history w hrun _ hd hwins ⟨500, []⟩ _ _ hstep (by decide) (by decide)
  have htold := Workload.notice_or_authenticating hfind hstep (by decide) (by decide)
  exact absurd (hquiet _ (htold.resolve_right (by simp [hunmarked]))) (by simp [Event.isNotice])

end Run

end Courier
