import Courier.Proofs.Session.History

/-!
# `Courier.Proofs.Session.OneDialog`: one dialog at a time, and nobody stuck

The turnstile lets one dispatch in at a time, so that the operator sees one login dialog at a time.
In an orderly session a dispatch in its dialog is the one inside, and this makes it the only one
(`Orderly.eq_of_inDialog`).

A turnstile could also lock everybody out. Whoever is inside is a live dispatch, though, and one
that can go on: it waits for the operator, for the answer to its login, or for nothing at all,
having just been let in (`Orderly.ready_of_holder?`). A workload that has settled has nobody of the
last kind (`Orderly.inDialog_of_settled`), and every workload settles (`Workload.settle_spec`). A
demand to log in that answers a login out of the dialog does not send the dispatch to the turnstile,
inside of which it is, but back to its dialog (`Workload.step?_of_loginDenied`).
-/

set_option autoImplicit false

namespace Courier

namespace Workload

/-- Nobody can go on without a signal from outside. -/
def Settled (w : Workload) : Prop := ∀ task, w.step? (.proceed task) = none

/-- The dispatch can go on without another one going on first: it does, on whatever it waits for
from outside, or because its turn has come. -/
def Ready (w : Workload) (d : Dispatch) : Prop :=
  match d.phase with
  | .sending _ => ∀ outcome, (w.step? (.answer d.errand.task outcome)).isSome = true
  | .atTurnstile _ => (w.step? (.proceed d.errand.task)).isSome = true
  | .prompting => ∀ entered, (w.step? (.credentials d.errand.task entered)).isSome = true
  | .loggingIn => ∀ outcome, (w.step? (.answer d.errand.task outcome)).isSome = true

end Workload

/-! ### Who is inside -/

namespace Orderly

variable {s : Session} {ds : List Dispatch} {d d' : Dispatch} {task : Nat}

/-- The line is as long as there are dispatches that have to pass the turnstile. -/
theorem length_line (h : Orderly s ds) : s.turnstile.line.length = ds.countP (·.phase.inLine) := by
  have hnodup : ((ds.filter (·.phase.inLine)).map (·.errand.task)).Nodup :=
    (List.filter_sublist.map _).nodup h.tasks
  have hperm : s.turnstile.line.Perm ((ds.filter (·.phase.inLine)).map (·.errand.task)) := by
    rw [List.perm_ext_iff_of_nodup h.nodup_line hnodup]
    intro task
    rw [h.mem_line]
    simp only [List.mem_map, List.mem_filter]
    exact exists_congr fun d => by tauto
  rw [hperm.length_eq, List.length_map, List.countP_eq_length_filter]

/-- Whoever is inside is a live dispatch. -/
theorem exists_of_holder? (h : Orderly s ds) (hholder : s.turnstile.holder? = some task) :
    ∃ d ∈ ds, d.errand.task = task ∧ d.phase.inLine = true := by
  rw [← Turnstile.head?_line h.tidy] at hholder
  exact (h.mem_line task).mp (List.mem_of_head? hholder)

/-- If somebody has come to the turnstile, somebody is inside. -/
theorem exists_holder? (h : Orderly s ds) (hd : d ∈ ds) (hline : d.phase.inLine = true) :
    ∃ inside, s.turnstile.holder? = some inside := by
  rw [← Option.isSome_iff_exists, Option.isSome_iff_ne_none]
  intro hnone
  have hempty := (Turnstile.line_eq_nil_iff h.tidy).mpr hnone
  exact List.ne_nil_of_mem ((h.mem_line _).mpr ⟨d, hd, rfl, hline⟩) hempty

/-- Two dispatches in their dialogs are one. -/
theorem eq_of_inDialog (h : Orderly s ds) (hd : d ∈ ds) (hd' : d' ∈ ds)
    (hdialog : d.phase.inDialog = true) (hdialog' : d'.phase.inDialog = true) : d = d' := by
  have hsame := (h.holder d hd hdialog).symm.trans (h.holder d' hd' hdialog')
  exact List.inj_on_of_nodup_map h.tasks hd hd' (Option.some.inj hsame)

/-- An orderly session has one dialog open at most. -/
theorem dialogsOpen_le_one (h : Orderly s ds) : s.dialogsOpen ≤ 1 := by
  rw [h.dialogs, List.countP_eq_length_filter]
  -- all of them are one, and the list has no duplicates
  have hnodup : (ds.filter (·.phase.inDialog)).Nodup := (List.Nodup.of_map _ h.tasks).filter _
  cases hopen : ds.filter (·.phase.inDialog) with
  | nil => exact Nat.zero_le 1
  | cons d rest =>
    cases rest with
    | nil => exact Nat.le_refl 1
    | cons d' rest =>
      have hd : d ∈ ds.filter (·.phase.inDialog) := by simp [hopen]
      have hd' : d' ∈ ds.filter (·.phase.inDialog) := by simp [hopen]
      rw [List.mem_filter] at hd hd'
      have hsame := h.eq_of_inDialog hd.1 hd'.1 hd.2 hd'.2
      rw [hopen, hsame] at hnodup
      simp at hnodup

/-- With a dispatch in its dialog, a dialog is open. -/
theorem dialogsOpen_pos (h : Orderly s ds) (hd : d ∈ ds) (hdialog : d.phase.inDialog = true) :
    0 < s.dialogsOpen := by
  rw [h.dialogs]
  exact List.countP_pos_iff.mpr ⟨d, hd, hdialog⟩

/-- A dialog is open exactly while whoever is inside is in its dialog. -/
theorem dialogsOpen_eq_one_iff (h : Orderly s ds) :
    s.dialogsOpen = 1 ↔
      ∃ d ∈ ds, s.turnstile.holder? = some d.errand.task ∧ d.phase.inDialog = true := by
  constructor
  · intro hone
    have hpos : 0 < ds.countP (·.phase.inDialog) := by
      rw [← h.dialogs, hone]
      exact Nat.one_pos
    obtain ⟨d, hd, hdialog⟩ := List.countP_pos_iff.mp hpos
    exact ⟨d, hd, h.holder d hd hdialog, hdialog⟩
  · rintro ⟨d, hd, -, hdialog⟩
    exact Nat.le_antisymm h.dialogsOpen_le_one (h.dialogsOpen_pos hd hdialog)

end Orderly

/-! ### Who can go on -/

namespace Workload

variable {w : Workload} {d : Dispatch}

/-- Only whoever is inside can go on without a signal from outside. -/
theorem step?_proceed_of_holder?_ne {task : Nat} (h : w.session.turnstile.holder? ≠ some task) :
    w.step? (.proceed task) = none := by
  cases hstep : w.step? (.proceed task) with
  | none => rfl
  | some result =>
    obtain ⟨c, -, hc⟩ := Option.bind_eq_some_iff.mp hstep
    split at hc
    · exact absurd (Option.ite_none_right_eq_some.mp hc).1 h
    · exact nomatch hc

/-- A dispatch that stands in no line, or is inside, is ready for its next signal. -/
theorem ready_of_inside (hfind : w.find? d.errand.task = some d)
    (hinside : d.phase.inLine = true → w.session.turnstile.holder? = some d.errand.task) :
    w.Ready d := by
  obtain ⟨e, armed, phase⟩ := d
  cases phase with
  | sending seen =>
    intro outcome
    have hsteps : w.Steps _ _ _ := .ran hfind (.received e armed seen outcome)
    exact Option.isSome_iff_exists.mpr ⟨_, step?_eq_some_iff.mpr hsteps⟩
  | atTurnstile seen =>
    have hsteps : w.Steps _ _ _ := .ran hfind (.admitted e armed seen (hinside rfl))
    exact Option.isSome_iff_exists.mpr ⟨_, step?_eq_some_iff.mpr hsteps⟩
  | prompting =>
    intro entered
    have hsteps : w.Steps _ _ _ := .ran hfind (.answered e armed entered)
    exact Option.isSome_iff_exists.mpr ⟨_, step?_eq_some_iff.mpr hsteps⟩
  | loggingIn =>
    intro outcome
    have hsteps : w.Steps _ _ _ := .ran hfind (.loggedIn e armed outcome)
    exact Option.isSome_iff_exists.mpr ⟨_, step?_eq_some_iff.mpr hsteps⟩

/-- A demand to log in that answers a login out of the dialog opens the dialog again, and the
dispatch stays inside the turnstile. -/
theorem step?_of_loginDenied (hfind : w.find? d.errand.task = some d)
    (hphase : d.phase = .loggingIn) (hattended : d.errand.dispatcher.attended = true)
    {r : Http.Response} (h403 : r.status = 403) :
    w.step? (.answer d.errand.task (.ok r)) =
      some (⟨w.session, w.replace d.errand.task (some ⟨d.errand, true, .prompting⟩)⟩,
        [.asked d.errand.task (some Errand.loginDenied)]) := by
  obtain ⟨e, armed, phase⟩ := d
  obtain rfl : phase = .loggingIn := hphase
  have hverdict : Verdict.of e.dispatcher.codec w.session.authenticating (.ok r) = .loginRequired :=
    Verdict.of_eq_loginRequired_iff.mpr ⟨r, rfl, h403⟩
  have hrun : e.loggedIn (.ok r) w.session =
      ⟨w.session, [.asked e.task (some Errand.loginDenied)], some ⟨e, true, .prompting⟩⟩ := by
    rw [Errand.loggedIn, hverdict]
    exact if_pos hattended
  rw [step?_eq_some_iff.mpr (.ran hfind (.loggedIn e armed (.ok r))), hrun]
  rfl

/-! ### Settling -/

/-- With nobody inside, or with somebody inside who cannot go on, the workload has settled. -/
theorem settled_of_bind_eq_none
    (h : (w.session.turnstile.holder?.bind fun task => w.step? (.proceed task)) = none) :
    w.Settled := by
  intro task
  by_cases hinside : w.session.turnstile.holder? = some task
  · rw [hinside] at h
    exact h
  · exact step?_proceed_of_holder?_ne hinside

/-- While a dispatch is in its dialog nobody else is let in. -/
theorem settled_of_inDialog (h : Orderly w.session w.dispatches) (hd : d ∈ w.dispatches)
    (hdialog : d.phase.inDialog = true) : w.Settled := by
  refine settled_of_bind_eq_none ?_
  rw [h.holder d hd hdialog, Option.bind_some]
  cases hstep : w.step? (.proceed d.errand.task) with
  | none => rfl
  | some result =>
    obtain ⟨c, hc, hphase⟩ := Option.bind_eq_some_iff.mp hstep
    cases hc.symm.trans (find?_of_mem h.tasks hd)
    split at hphase
    case h_1 hturn => exact nomatch (congrArg Phase.inDialog hturn).symm.trans hdialog
    case h_2 => exact nomatch hphase

/-- Whoever is let in opens a dialog, or leaves. -/
theorem settled_or_shorter {next : Workload} {events : List Event} {task : Nat}
    (h : Orderly w.session w.dispatches) (hstep : w.step? (.proceed task) = some (next, events)) :
    next.Settled ∨ next.session.turnstile.line.length < w.session.turnstile.line.length := by
  have hsteps := step?_eq_some_iff.mp hstep
  have hnext : Orderly next.session next.dispatches := h.steps hsteps nofun
  rw [hnext.length_line, h.length_line]
  cases hsteps with
  | @ran d _ t hfind hruns =>
    have hd := mem_of_find? hfind
    have hphase : ∃ seen, d.phase = .atTurnstile seen := by
      cases hruns with
      | admitted e armed seen hinside => exact ⟨seen, rfl⟩
    obtain ⟨seen, hphase⟩ := hphase
    have hline : (d :: w.others d.errand.task).countP (·.phase.inLine) =
        (w.others d.errand.task).countP (·.phase.inLine) + 1 :=
      List.countP_cons_of_pos (by rw [hphase]; rfl)
    -- the others stand where they stood, so the line is compared at the one that is let in
    have hbefore := (perm_cons_others h.tasks hfind).countP_eq (·.phase.inLine)
    have hafter := (perm_run h.tasks hfind t).countP_eq (·.phase.inLine)
    rw [hbefore, hafter, List.countP_append, hline]
    cases hruns.turn (h.attended d hd) with
    | ended hnone hquiet => exact .inr (by simp [hnone])
    | queued seen' hsome hsending => exact nomatch hphase.symm.trans hsending
    | opened hall hseen hfree hopens hlogin =>
      cases hcase : t.next? with
      | none => exact .inr (by simp)
      | some c =>
        have hc := (mem_run h.tasks hfind).mpr (.inl hcase)
        exact .inl (settled_of_inDialog hnext hc (by rw [hall c hcase]; rfl))
    | askedAgain hsome hdialog => exact nomatch (hphase ▸ hdialog)
    | loggingIn hsome hprompting => exact nomatch hphase.symm.trans hprompting
    | resent hsome hsent hquiet hlogin => exact .inr (by simp [hsome])

/-- A workload that has settled stays as it is. -/
theorem settleUpTo_of_settled (h : w.Settled) (count : Nat) : settleUpTo count w = (w, []) := by
  cases count with
  | zero => rfl
  | succ count =>
    have hnone : (w.session.turnstile.holder?.bind fun task => w.step? (.proceed task)) = none := by
      cases w.session.turnstile.holder? with
      | none => rfl
      | some task => exact h task
    simp only [settleUpTo, hnone]

/-- To settle is to take further steps, and as many of them as stand in line are enough. -/
theorem settleUpTo_spec {history : List Moment} {count : Nat} (h : Run history w)
    (hcount : w.session.turnstile.line.length ≤ count) :
    (settleUpTo count w).1.Settled ∧ ∃ more, Run (more ++ history) (settleUpTo count w).1 := by
  -- the line gets shorter with each step, unless a dialog opens
  induction count generalizing history w with
  | zero =>
    have hempty := List.eq_nil_of_length_eq_zero (Nat.le_zero.mp hcount)
    have hholder := (Turnstile.line_eq_nil_iff h.orderly.tidy).mp hempty
    refine ⟨settled_of_bind_eq_none ?_, [], h⟩
    show (w.session.turnstile.holder?.bind _) = none
    rw [hholder]
    rfl
  | succ count ih =>
    cases hstep : w.session.turnstile.holder?.bind fun task => w.step? (.proceed task) with
    | none =>
      simp only [settleUpTo, hstep]
      exact ⟨settled_of_bind_eq_none hstep, [], h⟩
    | some result =>
      obtain ⟨next, events⟩ := result
      obtain ⟨task, -, hproceed⟩ := Option.bind_eq_some_iff.mp hstep
      have hrun : Run (⟨w, .proceed task, next, events⟩ :: history) next :=
        .step (m := ⟨w, .proceed task, next, events⟩) h nofun hproceed
      simp only [settleUpTo, hstep]
      rcases settled_or_shorter h.orderly hproceed with hsettled | hshorter
      · -- a dialog is open now, and the rest of the count is not needed
        rw [settleUpTo_of_settled hsettled]
        exact ⟨hsettled, [_], hrun⟩
      · obtain ⟨hsettled, more, hmore⟩ := ih hrun (by omega)
        exact ⟨hsettled, more ++ [_], by simpa using hmore⟩

/-- The workload settles, by further steps. -/
theorem settle_spec {history : List Moment} (h : Run history w) :
    w.settle.1.Settled ∧ ∃ more, Run (more ++ history) w.settle.1 := by
  refine settleUpTo_spec h ?_
  -- the line is the queue, and the one inside if there is one
  unfold Turnstile.line
  cases w.session.turnstile.holder? <;> simp

end Workload

namespace Orderly

variable {w : Workload} {d : Dispatch} {task : Nat}

/-- Whoever is inside can go on. -/
theorem ready_of_holder? (h : Orderly w.session w.dispatches)
    (hholder : w.session.turnstile.holder? = some task) :
    ∃ d ∈ w.dispatches, d.errand.task = task ∧ w.Ready d := by
  obtain ⟨d, hd, rfl, -⟩ := h.exists_of_holder? hholder
  have hfind := Workload.find?_of_mem h.tasks hd
  exact ⟨d, hd, rfl, Workload.ready_of_inside hfind fun _ => hholder⟩

/-- Every dispatch can go on, or another one can, behind which it stands in line. -/
theorem ready_or_behind (h : Orderly w.session w.dispatches) (hd : d ∈ w.dispatches) :
    w.Ready d ∨ ∃ inside ∈ w.dispatches, inside.errand.task ≠ d.errand.task ∧
      w.session.turnstile.holder? = some inside.errand.task ∧ w.Ready inside := by
  have hfind := Workload.find?_of_mem h.tasks hd
  by_cases hinside : d.phase.inLine = true → w.session.turnstile.holder? = some d.errand.task
  · exact .inl (Workload.ready_of_inside hfind hinside)
  · obtain ⟨hline, hother⟩ := Classical.not_imp.mp hinside
    obtain ⟨task, htask⟩ := h.exists_holder? hd hline
    obtain ⟨inside, hmem, rfl, hready⟩ := h.ready_of_holder? htask
    exact .inr ⟨inside, hmem, fun he => hother (he ▸ htask), htask, hready⟩

/-- In a workload that has settled, whoever is inside is in its dialog. -/
theorem inDialog_of_settled (h : Orderly w.session w.dispatches) (hsettled : w.Settled)
    (hholder : w.session.turnstile.holder? = some task) :
    ∃ d ∈ w.dispatches, d.errand.task = task ∧ d.phase.inDialog = true := by
  obtain ⟨⟨e, armed, phase⟩, hd, rfl, hline⟩ := h.exists_of_holder? hholder
  have hfind := Workload.find?_of_mem h.tasks hd
  refine ⟨_, hd, rfl, ?_⟩
  cases phase with
  | sending seen => exact nomatch hline
  | atTurnstile seen =>
    have hstep := Workload.step?_eq_some_iff.mpr (.ran hfind (.admitted e armed seen hholder))
    exact nomatch (hsettled e.task).symm.trans hstep
  | prompting => rfl
  | loggingIn => rfl

end Orderly

/-! ### The dialog in a run -/

/-- One dialog at a time, and nobody stuck, at any point of any run.

* The session counts the dispatches in their dialogs. There is one at most, so the operator is asked
  by one dispatch at a time, and what is counted down has been counted up.
* A dialog has opened only while no other was open.
* A dialog is open exactly while whoever is inside the turnstile is in its dialog.
* Whoever is inside is a live dispatch that can go on, and every live dispatch can go on or stands
  behind it. As soon as the workload has settled, and it can settle at any time, whoever is inside
  is in its dialog.
* A demand to log in that answers a login leaves the turnstile as it is and opens the dialog
  again. -/
theorem Run.one_dialog {history : List Moment} {w : Workload} (h : Run history w) :
    w.session.dialogsOpen = w.dispatches.countP (·.phase.inDialog) ∧
    w.session.dialogsOpen ≤ 1 ∧
    (∀ d ∈ w.dispatches, d.phase.inDialog = true → 0 < w.session.dialogsOpen) ∧
    (∀ d ∈ w.dispatches, ∀ d' ∈ w.dispatches,
      d.phase.inDialog = true → d'.phase.inDialog = true → d = d') ∧
    (∀ m ∈ history, ∀ task, m.opens task = true →
      ∀ d ∈ m.before.dispatches, d.phase.inDialog = false) ∧
    (w.session.dialogsOpen = 1 ↔ ∃ d ∈ w.dispatches,
      w.session.turnstile.holder? = some d.errand.task ∧ d.phase.inDialog = true) ∧
    (∀ task, w.session.turnstile.holder? = some task →
      ∃ d ∈ w.dispatches, d.errand.task = task ∧ w.Ready d) ∧
    (∀ d ∈ w.dispatches, w.Ready d ∨ ∃ inside ∈ w.dispatches,
      inside.errand.task ≠ d.errand.task ∧
        w.session.turnstile.holder? = some inside.errand.task ∧ w.Ready inside) ∧
    (w.Settled → ∀ task, w.session.turnstile.holder? = some task →
      ∃ d ∈ w.dispatches, d.errand.task = task ∧ d.phase.inDialog = true) ∧
    (w.settle.1.Settled ∧ ∃ more, Run (more ++ history) w.settle.1) ∧
    (∀ d ∈ w.dispatches, d.phase = .loggingIn → ∀ r : Http.Response, r.status = 403 →
      w.step? (.answer d.errand.task (.ok r)) =
        some (⟨w.session, w.replace d.errand.task (some ⟨d.errand, true, .prompting⟩)⟩,
          [.asked d.errand.task (some Errand.loginDenied)])) := by
  -- nearly all of it holds of any orderly session; only the openings look back at the run
  have horderly := h.orderly
  refine ⟨horderly.dialogs, horderly.dialogsOpen_le_one, fun d hd => horderly.dialogsOpen_pos hd,
    fun d hd d' hd' => horderly.eq_of_inDialog hd hd', ?_, horderly.dialogsOpen_eq_one_iff,
    fun task => horderly.ready_of_holder?, fun d => horderly.ready_or_behind,
    fun hsettled task => horderly.inDialog_of_settled hsettled, Workload.settle_spec h, ?_⟩
  · intro m hm task hopens d hd
    obtain ⟨past, hrun⟩ := h.exists_of_mem hm
    obtain ⟨c, t, -, hopened⟩ := hrun.kind.opened hopens
    exact hopened.not_inDialog hrun.before.orderly hd
  · intro d hd hphase r h403
    have hdialog : d.phase.inDialog = true := by rw [hphase]; rfl
    exact Workload.step?_of_loginDenied (Workload.find?_of_mem horderly.tasks hd) hphase
      (horderly.attended d hd hdialog) h403

/-- The first task that is asked to log in comes to be in its dialog, and the second one waits
behind it. -/
theorem Run.one_dialog_twoAsked :
    ∃ history w, replay? [] {} twoAsked = some (history, w) ∧ Run history w ∧
      w.dispatches.map (·.phase) = [.prompting, .atTurnstile 0] ∧
      ∃ d ∈ w.dispatches, w.session.turnstile.holder? = some d.errand.task ∧
        d.phase.inDialog = true := by
  have hreplay : replay? [] {} twoAsked = some (_, _) := rfl
  have hrun := Run.of_replay? (.idle {}) hreplay
  exact ⟨_, _, hreplay, hrun, rfl, (Run.one_dialog hrun).2.2.2.2.2.1.mp rfl⟩

end Courier
