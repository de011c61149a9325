import Courier.Proofs.Session.Step
import Courier.Proofs.Session.Turnstile

/-!
# `Courier.Proofs.Session.Orderly`: the session keeps account of its dispatches

A session holds counters, a mark and a turnstile; the dispatches of a workload know by themselves
in which phase they are. `Orderly s ds` says that the one is the account of the other: so many
requests are in flight as there are dispatches, so many dialogs are open as dispatches are in
theirs, the line at the turnstile is made of the dispatches that have to pass it, a dispatch in its
dialog is the one inside, and a mark belongs to a dispatch that will clear it.

The account is kept by every step (`Orderly.steps`). A dispatch that runs goes through states of
the session that no workload shows, such as the one between coming to the turnstile and opening the
dialog. They are orderly as well, with the dispatch in front of the others and in the phase that
fits: `Orderly s (d :: others)`. So each operation on a session has one lemma about a dispatch in
front (`Orderly.enter`, `Orderly.closeDialog`, …), each run of a dispatch has one that chains
them (`Orderly.send`, `Orderly.receive`, …), and the others are carried along (`Orderly.runs`).
-/

set_option autoImplicit false

namespace Courier

/-- The session accounts for these dispatches. -/
structure Orderly (s : Session) (ds : List Dispatch) : Prop where
  /-- Each task has one dispatch. -/
  tasks : (ds.map (·.errand.task)).Nodup
  inFlight : s.inFlight = ds.length
  dialogs : s.dialogsOpen = ds.countP (·.phase.inDialog)
  tidy : s.turnstile.Tidy
  nodup_line : s.turnstile.line.Nodup
  mem_line : ∀ task, task ∈ s.turnstile.line ↔
    ∃ d ∈ ds, d.errand.task = task ∧ d.phase.inLine = true
  /-- A dialog is open inside the turnstile only. -/
  holder : ∀ d ∈ ds, d.phase.inDialog = true → s.turnstile.holder? = some d.errand.task
  /-- The mark of a login has an owner, which will clear it. -/
  marked : s.loggingIn = true → ∃ d ∈ ds, d.armed = true
  armed : ∀ d ∈ ds, d.phase.inLine = true → d.armed = true
  attended : ∀ d ∈ ds, d.phase.inDialog = true → d.errand.dispatcher.attended = true
  /-- What a dispatch has read of the generation is not ahead of it. -/
  seen_le : ∀ d ∈ ds, ∀ seen ∈ d.phase.seen?, seen ≤ s.generation

namespace Orderly

/-- The order in which dispatches are listed does not matter. -/
theorem perm {s : Session} {ds es : List Dispatch} (h : Orderly s ds) (hp : ds.Perm es) :
    Orderly s es where
  tasks := (hp.map _).nodup_iff.mp h.tasks
  inFlight := h.inFlight.trans hp.length_eq
  dialogs := h.dialogs.trans (hp.countP_eq _)
  tidy := h.tidy
  nodup_line := h.nodup_line
  mem_line task := (h.mem_line task).trans (by simp only [hp.mem_iff])
  holder d hd := h.holder d (hp.mem_iff.mpr hd)
  marked hm := by simpa only [hp.mem_iff] using h.marked hm
  armed d hd := h.armed d (hp.mem_iff.mpr hd)
  attended d hd := h.attended d (hp.mem_iff.mpr hd)
  seen_le d hd := h.seen_le d (hp.mem_iff.mpr hd)

/-! ### Operations on the session, seen by the dispatch in front -/

section
variable {s : Session} {e : Errand} {armed : Bool} {seen : Nat} {others ds : List Dispatch}

/-- No other dispatch has the task of the one in front. -/
theorem task_ne {d d' : Dispatch} (h : Orderly s (d :: others)) (hd : d' ∈ others) :
    d'.errand.task ≠ d.errand.task := by
  have hnodup := h.tasks
  rw [List.map_cons, List.nodup_cons] at hnodup
  exact fun he => hnodup.1 (List.mem_map.mpr ⟨d', hd, he⟩)

/-- The line is made of the dispatch in front, if it is in line, and of others. -/
theorem mem_line_cons {d : Dispatch} (h : Orderly s (d :: others)) (task : Nat) :
    task ∈ s.turnstile.line ↔ (d.errand.task = task ∧ d.phase.inLine = true) ∨
      ∃ d' ∈ others, d'.errand.task = task ∧ d'.phase.inLine = true := by
  simpa using h.mem_line task

/-- Taking the mark away leaves a session orderly. -/
theorem unmark (h : Orderly s ds) : Orderly (s.mark false) ds :=
  { h with marked := fun hm => nomatch hm }

/-- The mark may be set for a dispatch that is armed. -/
theorem mark {d : Dispatch} (h : Orderly s (d :: others)) (harmed : d.armed = true) :
    Orderly (s.mark true) (d :: others) :=
  { h with marked := fun _ => ⟨d, List.mem_cons_self, harmed⟩ }

/-- What dispatches have read of the generation is not ahead of it after one more login either. -/
theorem renew (h : Orderly s ds) : Orderly s.renew ds :=
  { h with seen_le := fun d hd seen hseen => Nat.le_succ_of_le (h.seen_le d hd seen hseen) }

/-- The dispatch in front goes over to a phase that holds the same of the session. -/
theorem turn {d d' : Dispatch} (h : Orderly s (d :: others))
    (htask : d'.errand = d.errand) (harmed : d.armed = true → d'.armed = true)
    (hline : d'.phase.inLine = d.phase.inLine) (hdialog : d'.phase.inDialog = d.phase.inDialog)
    (hseen : ∀ seen ∈ d'.phase.seen?, seen ≤ s.generation) : Orderly s (d' :: others) where
  tasks := by simpa [htask] using h.tasks
  inFlight := h.inFlight
  dialogs := by simpa [List.countP_cons, hdialog] using h.dialogs
  tidy := h.tidy
  nodup_line := h.nodup_line
  -- the line is about tasks, and the task stays
  mem_line task := by
    rw [h.mem_line_cons]
    simp [htask, hline]
  holder := by
    have hholder := h.holder
    simp only [List.forall_mem_cons] at hholder ⊢
    rw [htask, hdialog]
    exact hholder
  marked hm := by
    obtain ⟨c, hc, ha⟩ := h.marked hm
    rcases List.mem_cons.mp hc with rfl | hc
    · exact ⟨d', List.mem_cons_self, harmed ha⟩
    · exact ⟨c, List.mem_cons_of_mem _ hc, ha⟩
  armed := by
    have ha := h.armed
    simp only [List.forall_mem_cons] at ha ⊢
    rw [hline]
    exact ⟨fun hl => harmed (ha.1 hl), ha.2⟩
  attended := by
    have ha := h.attended
    simp only [List.forall_mem_cons] at ha ⊢
    rw [htask, hdialog]
    exact ha
  seen_le := by
    have hs := h.seen_le
    simp only [List.forall_mem_cons] at hs ⊢
    exact ⟨hseen, hs.2⟩

/-- A new dispatch, of a task that is not at work. -/
theorem arrive (h : Orderly s ds) (hnew : e.task ∉ ds.map (·.errand.task)) (armed : Bool) :
    Orderly { s with inFlight := s.inFlight + 1 } (⟨e, armed, .sending s.generation⟩ :: ds) where
  tasks := by
    rw [List.map_cons, List.nodup_cons]
    exact ⟨hnew, h.tasks⟩
  inFlight := by
    rw [List.length_cons, ← h.inFlight]
  dialogs := by simpa [List.countP_cons] using h.dialogs
  tidy := h.tidy
  nodup_line := h.nodup_line
  mem_line task := by simpa using h.mem_line task
  holder := by simpa using h.holder
  marked hm := by
    obtain ⟨d, hd, ha⟩ := h.marked hm
    exact ⟨d, List.mem_cons_of_mem _ hd, ha⟩
  armed := by simpa using h.armed
  attended := by simpa using h.attended
  seen_le := by simpa using h.seen_le

/-- A dispatch that holds nothing of the session any more is no longer in flight. If it has
marked the session, the mark is cleared by now. -/
theorem leaveFlight (h : Orderly s (⟨e, armed, .sending seen⟩ :: others))
    (hmark : armed = true → s.loggingIn = false) :
    Orderly { s with inFlight := s.inFlight - 1 } others where
  tasks := (List.nodup_cons.mp h.tasks).2
  inFlight := by
    show s.inFlight - 1 = others.length
    rw [h.inFlight, List.length_cons, Nat.add_sub_cancel]
  dialogs := by simpa [List.countP_cons] using h.dialogs
  tidy := h.tidy
  nodup_line := h.nodup_line
  mem_line task := by simpa using h.mem_line task
  holder d hd := h.holder d (List.mem_cons_of_mem _ hd)
  marked hm := by
    -- the owner of a mark is not the one that leaves, as that one has cleared its own
    obtain ⟨d, hd, ha⟩ := h.marked hm
    rcases List.mem_cons.mp hd with rfl | hd
    · exact absurd hm (by simp [hmark ha])
    · exact ⟨d, hd, ha⟩
  armed d hd := h.armed d (List.mem_cons_of_mem _ hd)
  attended d hd := h.attended d (List.mem_cons_of_mem _ hd)
  seen_le d hd := h.seen_le d (List.mem_cons_of_mem _ hd)

/-- The dispatch comes to the turnstile. -/
theorem enter (h : Orderly s (⟨e, true, .sending seen⟩ :: others)) :
    Orderly { s with turnstile := s.turnstile.enter e.task }
      (⟨e, true, .atTurnstile seen⟩ :: others) where
  tasks := h.tasks
  inFlight := h.inFlight
  dialogs := by simpa [List.countP_cons] using h.dialogs
  tidy := Turnstile.tidy_enter e.task
  nodup_line := by
    -- it stands in line for the first time
    have hnew : e.task ∉ s.turnstile.line := by
      rw [h.mem_line_cons]
      rintro (⟨-, hline⟩ | ⟨d, hd, he, -⟩)
      · exact nomatch hline
      · exact h.task_ne hd he
    rw [Turnstile.line_enter h.tidy, List.nodup_append]
    refine ⟨h.nodup_line, by simp, ?_⟩
    rintro task htask _ hlast rfl
    exact hnew (List.mem_singleton.mp hlast ▸ htask)
  mem_line task := by
    show task ∈ (s.turnstile.enter e.task).line ↔ _
    rw [Turnstile.line_enter h.tidy, List.mem_append, h.mem_line_cons]
    constructor
    · rintro ((⟨-, hline⟩ | ⟨d, hd, he, hline⟩) | hlast)
      · exact nomatch hline
      · exact ⟨d, List.mem_cons_of_mem _ hd, he, hline⟩
      · exact ⟨_, List.mem_cons_self, (List.mem_singleton.mp hlast).symm, rfl⟩
    · rintro ⟨d, hd, he, hline⟩
      rcases List.mem_cons.mp hd with rfl | hd
      · exact Or.inr (List.mem_singleton.mpr he.symm)
      · exact Or.inl (Or.inr ⟨d, hd, he, hline⟩)
  holder := by
    have hholder := h.holder
    simp only [List.forall_mem_cons] at hholder ⊢
    -- whoever is in its dialog was inside before, so the one that comes is let in behind it
    refine ⟨fun hdialog => (nomatch hdialog), fun d hd hdialog => ?_⟩
    rw [Turnstile.holder?_enter, hholder.2 d hd hdialog, Option.getD_some]
  marked _ := ⟨_, List.mem_cons_self, rfl⟩
  armed := by simpa using h.armed
  attended := by simpa using h.attended
  seen_le := by simpa using h.seen_le

/-- The dispatch leaves the turnstile, from inside or from the queue. -/
theorem leave (h : Orderly s (⟨e, armed, .atTurnstile seen⟩ :: others)) :
    Orderly { s with turnstile := s.turnstile.leave e.task }
      (⟨e, armed, .sending seen⟩ :: others) where
  tasks := h.tasks
  inFlight := h.inFlight
  dialogs := by simpa [List.countP_cons] using h.dialogs
  tidy := Turnstile.tidy_leave h.tidy e.task
  nodup_line := by
    rw [Turnstile.line_leave h.nodup_line]
    exact h.nodup_line.filter _
  mem_line task := by
    show task ∈ (s.turnstile.leave e.task).line ↔ _
    rw [Turnstile.line_leave h.nodup_line, List.mem_filter, h.mem_line_cons]
    -- whoever else is in line stays there, as the tasks differ
    constructor
    · rintro ⟨⟨he, -⟩ | ⟨d, hd, he, hline⟩, hne⟩
      · exact absurd he.symm (by simpa using hne)
      · exact ⟨d, List.mem_cons_of_mem _ hd, he, hline⟩
    · rintro ⟨d, hd, he, hline⟩
      rcases List.mem_cons.mp hd with rfl | hd
      · exact nomatch hline
      · exact ⟨Or.inr ⟨d, hd, he, hline⟩, by simpa [← he] using h.task_ne hd⟩
  holder := by
    have hholder := h.holder
    simp only [List.forall_mem_cons] at hholder ⊢
    refine ⟨fun hdialog => (nomatch hdialog), fun d hd hdialog => ?_⟩
    exact Turnstile.holder?_leave_of_ne (hholder.2 d hd hdialog) (h.task_ne hd)
  marked hm := by simpa using h.marked hm
  armed := by
    have ha := h.armed
    simp only [List.forall_mem_cons] at ha ⊢
    exact ⟨fun hline => (nomatch hline), ha.2⟩
  attended := by simpa using h.attended
  seen_le := by simpa using h.seen_le

/-- The dispatch inside the turnstile opens its dialog. -/
theorem openDialog (h : Orderly s (⟨e, armed, .atTurnstile seen⟩ :: others))
    (hinside : s.turnstile.holder? = some e.task) (hattended : e.dispatcher.attended = true) :
    Orderly s.openDialog (⟨e, armed, .prompting⟩ :: others) where
  tasks := h.tasks
  inFlight := h.inFlight
  dialogs := by
    -- one dialog more is open, and one dispatch more is in its dialog
    have hd := h.dialogs
    rw [List.countP_cons_of_neg (by simp)] at hd
    show s.dialogsOpen + 1 = _
    rw [hd, List.countP_cons_of_pos rfl]
  tidy := h.tidy
  nodup_line := h.nodup_line
  mem_line task := by
    show task ∈ s.turnstile.line ↔ _
    simpa using h.mem_line task
  holder := by
    have hholder := h.holder
    simp only [List.forall_mem_cons] at hholder ⊢
    exact ⟨fun _ => hinside, hholder.2⟩
  marked hm := by simpa using h.marked hm
  armed := by simpa using h.armed
  attended := by
    have ha := h.attended
    simp only [List.forall_mem_cons] at ha ⊢
    exact ⟨fun _ => hattended, ha.2⟩
  seen_le := by
    have hs := h.seen_le
    simp only [List.forall_mem_cons] at hs ⊢
    exact ⟨fun _ hseen => (nomatch hseen), hs.2⟩

/-- The dispatch closes its dialog and leaves the turnstile. -/
theorem closeDialog {phase : Phase} (h : Orderly s (⟨e, armed, phase⟩ :: others))
    (hdialog : phase.inDialog = true) :
    Orderly (s.closeDialog e.task) (⟨e, armed, .sending s.generation⟩ :: others) := by
  -- the dialog closes inside the turnstile, and then the dispatch leaves as from the queue
  have hline := Phase.inLine_of_inDialog hdialog
  have hclosed : Orderly { s with dialogsOpen := s.dialogsOpen - 1 }
      (⟨e, armed, .atTurnstile s.generation⟩ :: others) :=
    { tasks := h.tasks
      inFlight := h.inFlight
      dialogs := by
        have hd := h.dialogs
        simp only [List.countP_cons, hdialog, if_true] at hd
        show s.dialogsOpen - 1 = _
        rw [hd, Nat.add_sub_cancel, List.countP_cons_of_neg (by simp)]
      tidy := h.tidy
      nodup_line := h.nodup_line
      mem_line := fun task => by
        rw [h.mem_line_cons]
        simp [hline]
      holder := by
        have hholder := h.holder
        simp only [List.forall_mem_cons] at hholder ⊢
        exact ⟨fun hfalse => (nomatch hfalse), hholder.2⟩
      marked := fun hm => by simpa using h.marked hm
      armed := by
        have ha := h.armed
        simp only [List.forall_mem_cons] at ha ⊢
        exact ⟨fun _ => ha.1 hline, ha.2⟩
      attended := by
        have ha := h.attended
        simp only [List.forall_mem_cons] at ha ⊢
        exact ⟨fun hfalse => (nomatch hfalse), ha.2⟩
      seen_le := by
        have hs := h.seen_le
        simp only [List.forall_mem_cons] at hs ⊢
        exact ⟨by simp, hs.2⟩ }
  exact hclosed.leave

/-! ### Runs of the dispatch in front -/

/-- A dispatch that ends leaves an orderly session behind. -/
theorem finish (h : Orderly s (⟨e, armed, .sending seen⟩ :: others))
    (result : Except CallError Value) :
    Orderly (e.finish result s).session ((e.finish result s).next?.toList ++ others) := by
  have hgone : Orderly (e.depart (s.mark false)).1 others := h.unmark.leaveFlight fun _ => rfl
  unfold Errand.finish
  dsimp only [Option.toList_none, List.nil_append]
  split
  · exact hgone.renew
  · exact hgone

/-- So does one that sends its request. -/
theorem send (h : Orderly s (⟨e, armed, .sending seen⟩ :: others))
    (harmed : e.authenticates = true → armed = true) :
    Orderly (e.send armed s).session ((e.send armed s).next?.toList ++ others) := by
  unfold Errand.send
  cases e.dispatcher.api.request e.dispatcher.codec s.site.id? e.call with
  | error cause => exact h.finish _
  | ok request =>
    have hread : Orderly s (⟨e, armed, .sending s.generation⟩ :: others) :=
      h.turn rfl id rfl rfl (by simp)
    dsimp only
    split
    case isTrue hauth => exact hread.mark (harmed hauth)
    case isFalse => exact hread

/-- A dispatch in its dialog has somebody to ask. -/
theorem ask {phase : Phase} (h : Orderly s (⟨e, true, phase⟩ :: others))
    (hdialog : phase.inDialog = true) (lastError : Option String) :
    Orderly (e.ask lastError s).session ((e.ask lastError s).next?.toList ++ others) := by
  have hattended : e.dispatcher.attended = true := h.attended _ List.mem_cons_self hdialog
  have hline : phase.inLine = true := Phase.inLine_of_inDialog hdialog
  unfold Errand.ask
  rw [if_pos hattended]
  exact h.turn rfl id hline.symm hdialog.symm (by simp)

/-- One that is let in opens its dialog, or makes room for the next one and sends its request again.
-/
theorem admitted (h : Orderly s (⟨e, true, .atTurnstile seen⟩ :: others))
    (hinside : s.turnstile.holder? = some e.task) :
    Orderly (e.admitted seen s).session ((e.admitted seen s).next?.toList ++ others) := by
  unfold Errand.admitted
  split
  · by_cases hattended : e.dispatcher.attended = true
    · exact (h.openDialog hinside hattended).ask rfl none
    · -- with nobody to ask, the dialog closes as soon as it opens
      unfold Errand.ask
      rw [if_neg hattended]
      exact h.leave.finish _
  · -- there has been a login: it leaves the turnstile and sends its request again
    have hout : Orderly _ (⟨e, true, .sending seen⟩ :: others) := h.leave
    exact (hout.mark rfl).send fun _ => rfl

/-- One whose answer demands a login comes to the turnstile, and may be let in at once. -/
theorem requireLogin (h : Orderly s (⟨e, armed, .sending seen⟩ :: others)) :
    Orderly (e.requireLogin seen s).session
      ((e.requireLogin seen s).next?.toList ++ others) := by
  have harmed : Orderly s (⟨e, true, .sending seen⟩ :: others) :=
    h.turn rfl (fun _ => rfl) rfl rfl (h.seen_le ⟨e, armed, .sending seen⟩ List.mem_cons_self)
  have hin := (harmed.mark rfl).enter
  unfold Errand.requireLogin
  dsimp only
  split
  case isTrue hinside => exact hin.admitted hinside
  case isFalse => exact hin

/-- Whatever the answer to a request is, the session stays orderly. -/
theorem receive (h : Orderly s (⟨e, armed, .sending seen⟩ :: others))
    (outcome : Except TransportError Http.Response) :
    Orderly (e.receive seen outcome s).session
      ((e.receive seen outcome s).next?.toList ++ others) := by
  unfold Errand.receive
  split
  · exact h.requireLogin
  · exact h.finish _

/-- So it does whatever the operator enters. -/
theorem answered (h : Orderly s (⟨e, true, .prompting⟩ :: others))
    (credentials : Option Credentials) :
    Orderly (e.answered credentials s).session
      ((e.answered credentials s).next?.toList ++ others) := by
  unfold Errand.answered
  cases credentials with
  | none => exact (h.closeDialog rfl).finish _
  | some c =>
    dsimp only
    split
    · exact h.unmark.ask rfl _
    · have hasked : Orderly s (⟨e, true, .loggingIn⟩ :: others) :=
        h.turn rfl id rfl rfl (by simp)
      exact hasked.mark rfl

/-- And whatever becomes of a login. -/
theorem loggedIn (h : Orderly s (⟨e, true, .loggingIn⟩ :: others))
    (outcome : Except TransportError Http.Response) :
    Orderly (e.loggedIn outcome s).session
      ((e.loggedIn outcome s).next?.toList ++ others) := by
  unfold Errand.loggedIn
  split
  · exact h.ask rfl _
  · dsimp only [Stretch.after]
    split
    · -- the login has succeeded, and everybody who waits is to know
      exact ((h.unmark.renew.closeDialog rfl).mark rfl).send fun _ => rfl
    · exact h.unmark.ask rfl _

/-- A dispatch with a new task may begin at any time. -/
theorem start (h : Orderly s ds) (hnew : e.task ∉ ds.map (·.errand.task)) :
    Orderly (e.start s).session ((e.start s).next?.toList ++ ds) := by
  have hnow := h.arrive hnew e.authenticates
  unfold Errand.start
  dsimp only [Stretch.after]
  split
  case isTrue hauth => exact (hnow.mark hauth).send id
  case isFalse => exact hnow.send id

/-- A dispatch that is dropped takes back what it holds of the session. -/
theorem drop {d : Dispatch} (h : Orderly s (d :: others)) : Orderly (d.drop s).1 others := by
  obtain ⟨e, armed, phase⟩ := d
  -- what the dispatch holds of the session comes back first, then its mark
  have hfree : ∀ {τ : Session} {seen : Nat}, Orderly τ (⟨e, armed, .sending seen⟩ :: others) →
      Orderly (e.depart (if armed then τ.mark false else τ)).1 others := by
    intro τ seen hτ
    split
    case isTrue => exact hτ.unmark.leaveFlight fun _ => rfl
    case isFalse hnot => exact hτ.leaveFlight fun ha => absurd ha hnot
  cases phase with
  | sending seen => exact hfree h
  | atTurnstile seen => exact hfree h.leave
  | prompting => exact hfree (h.closeDialog rfl)
  | loggingIn => exact hfree (h.closeDialog rfl)

/-- Whatever the dispatch in front does, the account is kept with what becomes of it in front. -/
theorem runs {d : Dispatch} {signal : Signal} {t : Stretch} (h : Orderly s (d :: others))
    (hruns : d.Runs s signal t) : Orderly t.session (t.next?.toList ++ others) := by
  -- in line a dispatch is armed, which what it does next relies on
  have harmed := h.armed d List.mem_cons_self
  cases hruns with
  | received e armed seen outcome => exact h.receive outcome
  | loggedIn e armed outcome =>
    obtain rfl : armed = true := harmed rfl
    exact h.loggedIn outcome
  | answered e armed entered =>
    obtain rfl : armed = true := harmed rfl
    exact h.answered entered
  | admitted e armed seen hinside =>
    obtain rfl : armed = true := harmed rfl
    exact h.admitted hinside
  | dropped => exact h.drop

end

/-! ### Steps of the workload -/

section
variable {w next : Workload} {signal : Signal} {events : List Event}

/-- The account of a session without requests. -/
theorem idle (site : ActiveSite) : Orderly { site := site } [] where
  tasks := List.nodup_nil
  inFlight := rfl
  dialogs := rfl
  tidy _ := rfl
  nodup_line := List.nodup_nil
  mem_line task := by simp [Turnstile.line]
  holder d hd := nomatch hd
  marked hm := nomatch hm
  armed d hd := nomatch hd
  attended d hd := nomatch hd
  seen_le d hd := nomatch hd

/-- Every step keeps the account, if a task that starts is not at work already. -/
theorem steps (h : Orderly w.session w.dispatches) (hsteps : w.Steps signal next events)
    (hfresh : ∀ e, signal = .start e → ∀ d ∈ w.dispatches, d.errand.task ≠ e.task) :
    Orderly next.session next.dispatches := by
  cases hsteps with
  | started e =>
    have hnew : e.task ∉ w.dispatches.map (·.errand.task) := fun hmem => by
      obtain ⟨d, hd, he⟩ := List.mem_map.mp hmem
      exact hfresh e rfl d hd he
    exact (h.start hnew).perm List.perm_append_comm
  | ran hfind hruns =>
    have hfront := h.perm (Workload.perm_cons_others h.tasks hfind)
    exact (hfront.runs hruns).perm (Workload.perm_run h.tasks hfind _).symm
  | switched site => exact { h with }

end

end Orderly

end Courier
