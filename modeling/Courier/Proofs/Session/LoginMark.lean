import Courier.Proofs.Session.History

/-!
# `Courier.Proofs.Session.LoginMark`: the mark of a login does not outlive its owner

A session is marked while a login is under way, and while it is, an error that the server reports is
kept from the operator. The mark is one bit, set and cleared by every dispatch that logs in or is
asked to, so a mark that nobody clears would silence all later errors.

It does not happen. A dispatch is armed from the moment at which it marks the session to its end
(`Run.armed_iff`), a mark that is set belongs to an armed dispatch, and an armed dispatch clears it
on its way out, whichever way that is. So a session at rest is as it was in the beginning
(`Orderly.at_rest`), and an error is withheld only while somebody logs in
(`notice_or_authenticating`).
-/

set_option autoImplicit false

namespace Courier

/-- The server has answered a task with a demand to log in. -/
def AskedToLogIn (history : List Moment) (task : Nat) : Prop :=
  ∃ m ∈ history, ∃ r : Http.Response, r.status = 403 ∧ m.signal = .answer task (.ok r)

namespace AskedToLogIn

variable {history : List Moment} {m : Moment} {task : Nat}

/-- A demand to log in stays in the history. -/
theorem cons (h : AskedToLogIn history task) : AskedToLogIn (m :: history) task := by
  obtain ⟨x, hx, hanswer⟩ := h
  exact ⟨x, List.mem_cons_of_mem _ hx, hanswer⟩

/-- What happens to another task does not matter. -/
theorem cons_iff_of_ne (h : m.signal.task? ≠ some task) :
    AskedToLogIn (m :: history) task ↔ AskedToLogIn history task := by
  refine ⟨?_, cons⟩
  rintro ⟨x, hx, r, h403, hanswer⟩
  rcases List.mem_cons.mp hx with rfl | hx
  · exact absurd (by rw [hanswer]; rfl) h
  · exact ⟨x, hx, r, h403, hanswer⟩

end AskedToLogIn

/-- A dispatch that goes on has been armed before, or it is asked to log in now. -/
theorem Dispatch.Runs.armed_or_asked {s : Session} {d next : Dispatch} {signal : Signal}
    {t : Stretch} (h : d.Runs s signal t) (harmed : d.phase.inLine = true → d.armed = true)
    (hnext : t.next? = some next) :
    d.armed = true ∨ ∃ r : Http.Response, r.status = 403 ∧
      signal = .answer d.errand.task (.ok r) := by
  cases h with
  | received e armed seen outcome =>
    unfold Errand.receive at hnext
    cases hverdict : Verdict.of e.dispatcher.codec s.authenticating outcome with
    | loginRequired =>
      obtain ⟨r, rfl, h403⟩ := Verdict.of_eq_loginRequired_iff.mp hverdict
      exact .inr ⟨r, h403, rfl⟩
    | ended notices result =>
      rw [hverdict] at hnext
      exact nomatch hnext
  | loggedIn e armed outcome => exact .inl (harmed rfl)
  | answered e armed entered => exact .inl (harmed rfl)
  | admitted e armed seen hinside => exact .inl (harmed rfl)
  | dropped => exact nomatch hnext

namespace Run

variable {history : List Moment} {w : Workload} {d : Dispatch}

/-- The armed dispatches are those that log in and those that have been asked to. -/
theorem armed_iff (h : Run history w) (hd : d ∈ w.dispatches) :
    d.armed = true ↔ d.errand.authenticates = true ∨ AskedToLogIn history d.errand.task := by
  induction h generalizing d with
  | idle site => exact nomatch hd
  | @step history m hrun hfresh hstep ih =>
    cases (Run.step hrun hfresh hstep).kind.origin hd with
    | stayed hmem hother => rw [ih hmem, AskedToLogIn.cons_iff_of_ne hother]
    | began e hm hnow =>
      subst hnow
      -- the task is new, and its first moment is not an answer
      have hnot : ¬ AskedToLogIn (m :: history) e.task := by
        rintro ⟨x, hx, r, -, hanswer⟩
        rcases List.mem_cons.mp hx with rfl | hx
        · exact nomatch hm.signal.symm.trans hanswer
        · exact hfresh e hm.signal x hx (by rw [hanswer]; rfl)
      exact ⟨.inl, fun hcase => hcase.resolve_right hnot⟩
    | ran c t hm hnext =>
      -- whoever goes on is armed by now, so only the other direction has something to prove
      obtain ⟨herrand, harmed⟩ := hm.turn.errand_armed hnext
      have hc : c ∈ m.before.dispatches := Workload.mem_of_find? hm.find?_before
      refine ⟨fun _ => ?_, fun _ => harmed⟩
      rw [herrand]
      rcases hm.runs.armed_or_asked (hrun.orderly.armed c hc) hnext with hbefore | ⟨r, h403, hsig⟩
      · exact ((ih hc).mp hbefore).imp id AskedToLogIn.cons
      · exact .inr ⟨m, List.mem_cons_self, r, h403, hsig⟩

end Run

namespace Orderly

variable {s : Session} {ds : List Dispatch}

/-- A session without requests is as it was in the beginning, but for the site and the number of
logins. -/
theorem at_rest (h : Orderly s []) :
    s.authenticating = false ∧ s.dialogsOpen = 0 ∧ s.inFlight = 0 ∧ s.turnstile = {} := by
  have hdialogs : s.dialogsOpen = 0 := h.dialogs
  have hmark : s.loggingIn = false := by
    by_contra hm
    obtain ⟨d, hd, -⟩ := h.marked (by simpa using hm)
    exact nomatch hd
  have hline : s.turnstile.line = [] :=
    List.eq_nil_iff_forall_not_mem.mpr fun task htask => by
      obtain ⟨d, hd, -⟩ := (h.mem_line task).mp htask
      exact nomatch hd
  refine ⟨?_, hdialogs, h.inFlight, Turnstile.eq_of_line_eq_nil hline⟩
  simp [Session.authenticating, hmark, hdialogs]

/-- An open dialog is the one of a live dispatch. -/
theorem exists_inDialog (h : Orderly s ds) (hopen : 0 < s.dialogsOpen) :
    ∃ d ∈ ds, d.phase.inDialog = true := by
  rw [h.dialogs] at hopen
  exact List.countP_pos_iff.mp hopen

/-- While a login is under way, some live dispatch is armed. -/
theorem exists_armed (h : Orderly s ds) (hlogin : s.authenticating = true) :
    ∃ d ∈ ds, d.armed = true := by
  simp only [Session.authenticating, Bool.or_eq_true, decide_eq_true_eq] at hlogin
  rcases hlogin with hmark | hopen
  · exact h.marked hmark
  · obtain ⟨d, hd, hdialog⟩ := h.exists_inDialog hopen
    exact ⟨d, hd, h.armed d hd (Phase.inLine_of_inDialog hdialog)⟩

end Orderly

/-- The operator is told of an error that the server reports, or a login is under way. -/
theorem Workload.notice_or_authenticating {w next : Workload} {d : Dispatch} {r : Http.Response}
    {events : List Event} (hfind : w.find? d.errand.task = some d)
    (hstep : w.step? (.answer d.errand.task (.ok r)) = some (next, events))
    (h200 : r.status ≠ 200) (h403 : r.status ≠ 403) :
    .notice d.errand.front d.errand.task (.ofError (.refused r.status (Text.lossy r.body))) ∈
      events ∨ w.session.authenticating = true := by
  by_cases hlogin : w.session.authenticating = true
  · exact .inr hlogin
  · have hverdict : Verdict.of d.errand.dispatcher.codec w.session.authenticating (.ok r) = _ :=
      Verdict.of_refused h200 h403
    rw [if_neg hlogin] at hverdict
    obtain ⟨e, armed, phase⟩ := d
    -- the answer is one to the request or to a login, and both tell of the error
    obtain ⟨c, hc, hstep⟩ := Option.bind_eq_some_iff.mp hstep
    cases hc.symm.trans hfind
    refine .inl ?_
    cases phase with
    | sending seen =>
      cases hstep
      show _ ∈ (e.receive seen (.ok r) w.session).events
      rw [Errand.receive, hverdict]
      exact List.mem_cons_self
    | atTurnstile seen => exact nomatch hstep
    | prompting => exact nomatch hstep
    | loggingIn =>
      cases hstep
      show _ ∈ (e.loggedIn (.ok r) w.session).events
      rw [Errand.loggedIn, hverdict]
      exact List.mem_cons_self

/-! ### The mark in a run -/

namespace Run

variable {history : List Moment} {w : Workload}

/-- The account of the mark, at any point of any run.

A mark that is set belongs to a live dispatch that is armed, and those are the ones that log in by
themselves or that the server has asked to; a dialog that is open belongs to a live dispatch as
well. When the last dispatch is gone, nobody is logging in, no dialog is open, nothing is in flight
and the turnstile is empty. An error that the server reports to any dispatch is withheld from the
operator only if some live dispatch logs in or has been asked to. -/
theorem login_mark_owned (h : Run history w) :
    (w.session.loggingIn = true → ∃ d ∈ w.dispatches, d.armed = true) ∧
    (∀ d ∈ w.dispatches, d.armed = true ↔
      d.errand.authenticates = true ∨ AskedToLogIn history d.errand.task) ∧
    (0 < w.session.dialogsOpen → ∃ d ∈ w.dispatches, d.phase.inDialog = true) ∧
    (w.dispatches = [] → w.session.authenticating = false ∧ w.session.dialogsOpen = 0 ∧
      w.session.inFlight = 0 ∧ w.session.turnstile = {}) ∧
    (∀ d ∈ w.dispatches, ∀ (r : Http.Response) next events,
      w.step? (.answer d.errand.task (.ok r)) = some (next, events) →
      r.status ≠ 200 → r.status ≠ 403 →
      .notice d.errand.front d.errand.task
          (.ofError (.refused r.status (Text.lossy r.body))) ∈ events ∨
        ∃ owner ∈ w.dispatches,
          owner.errand.authenticates = true ∨ AskedToLogIn history owner.errand.task) := by
  have horderly := h.orderly
  refine ⟨horderly.marked, fun d hd => h.armed_iff hd, horderly.exists_inDialog, ?_, ?_⟩
  · intro hempty
    rw [hempty] at horderly
    exact horderly.at_rest
  · intro d hd r next events hstep h200 h403
    -- an error is withheld under the mark only, and the mark has an owner
    have hfind := Workload.find?_of_mem horderly.tasks hd
    refine (Workload.notice_or_authenticating hfind hstep h200 h403).imp id fun hlogin => ?_
    obtain ⟨owner, howner, harmed⟩ := horderly.exists_armed hlogin
    exact ⟨owner, howner, (h.armed_iff howner).mp harmed⟩

/-- While the first of two tasks is in its dialog and the second one waits, the mark is theirs. -/
theorem login_mark_owned_twoAsked :
    ∃ history w, replay? [] {} twoAsked = some (history, w) ∧ Run history w ∧
      w.session.loggingIn = true ∧ ∃ d ∈ w.dispatches, d.armed = true := by
  have hreplay : replay? [] {} twoAsked = some (_, _) := rfl
  have hrun := Run.of_replay? (.idle {}) hreplay
  exact ⟨_, _, hreplay, hrun, rfl, (Run.login_mark_owned hrun).1 rfl⟩

end Run

end Courier
