import Courier.Proofs.Session.Orderly

/-!
# `Courier.Proofs.Session.History`: what has happened so far

A run of a workload starts with a session without requests and takes one step after the other, in
any order that the signals come in. `Run history w` says that `w` is where a run has come to, and
`history` lists its steps, the last one first. Every state of a run is orderly (`Run.orderly`).

In each `Moment` of a run a dispatch begins, a dispatch runs, or the site is switched. `Run.kind`
says which, with everything that is the same for all runs of a dispatch. Seen from a live dispatch,
it has begun in that moment, has run in it, or has stayed as it was (`Moment.Origin`). Most of what
holds all along a run is proved by these three cases.
-/

set_option autoImplicit false

namespace Courier

/-- The task that a signal begins. -/
def Signal.begins? : Signal → Option Nat
  | .start e => some e.task
  | _ => none

/-- A step that a workload has taken. -/
structure Moment where
  before : Workload
  signal : Signal
  after : Workload
  events : List Event

/-- The runs of a workload. A task that starts is a new one: no signal so far was for it. -/
inductive Run : List Moment → Workload → Prop
  | idle (site : ActiveSite) : Run [] { session := { site := site } }
  | step {history : List Moment} {m : Moment} (hrun : Run history m.before)
      (hfresh : ∀ e, m.signal = .start e → ∀ past ∈ history, past.signal.task? ≠ some e.task)
      (hstep : m.before.step? m.signal = some (m.after, m.events)) : Run (m :: history) m.after

/-- Takes one signal after the other. The history is the one of the run before. -/
def replay? : List Moment → Workload → List Signal → Option (List Moment × Workload)
  | history, w, [] => some (history, w)
  | history, w, signal :: rest =>
    if history.any fun past => signal.begins?.isSome && past.signal.task? == signal.begins? then
      none
    else
      match w.step? signal with
      | none => none
      | some (next, events) => replay? (⟨w, signal, next, events⟩ :: history) next rest

/-- What has been replayed is a run. -/
theorem Run.of_replay? {history history' : List Moment} {w w' : Workload} {signals : List Signal}
    (hrun : Run history w) (h : replay? history w signals = some (history', w')) :
    Run history' w' := by
  induction signals generalizing history w with
  | nil =>
    cases h
    exact hrun
  | cons signal rest ih =>
    unfold replay? at h
    split at h
    case isTrue => exact nomatch h
    case isFalse hnew =>
      cases hstep : w.step? signal with
      | none =>
        rw [hstep] at h
        exact nomatch h
      | some result =>
        obtain ⟨next, events⟩ := result
        rw [hstep] at h
        refine ih (Run.step (m := ⟨w, signal, next, events⟩) hrun ?_ hstep) h
        rintro e rfl past hpast htask
        exact hnew (List.any_eq_true.mpr ⟨past, hpast, by simp [htask, Signal.begins?]⟩)

/-- A call that reads a list. -/
def Errand.reading (task : Nat) : Errand where
  task := task
  front := 0
  dispatcher := {}
  call := { method := .get, endpoint := "list" }

/-- Two tasks read lists, and the server asks both to log in. -/
def twoAsked : List Signal :=
  [.start (.reading 0), .start (.reading 1), .answer 0 (.ok ⟨403, []⟩), .answer 1 (.ok ⟨403, []⟩)]

/-! ### The three kinds of a moment -/

namespace Moment

/-- A dispatch has begun. -/
structure Began (m : Moment) (e : Errand) : Prop where
  signal : m.signal = .start e
  session : m.after.session = (e.start m.before.session).session
  events : m.events = (e.start m.before.session).events
  fresh : ∀ c ∈ m.before.dispatches, c.errand.task ≠ e.task
  find?_after : m.after.find? e.task = (e.start m.before.session).next?
  mem_after : ∀ c, c ∈ m.after.dispatches ↔
    c ∈ m.before.dispatches ∨ (e.start m.before.session).next? = some c

/-- A dispatch has run. -/
structure Ran (m : Moment) (d : Dispatch) (t : Stretch) : Prop where
  runs : d.Runs m.before.session m.signal t
  turn : d.Turn m.before.session m.signal t
  session : m.after.session = t.session
  events : m.events = t.events
  find?_before : m.before.find? d.errand.task = some d
  find?_after : m.after.find? d.errand.task = t.next?
  mem_after : ∀ c, c ∈ m.after.dispatches ↔
    t.next? = some c ∨ (c ∈ m.before.dispatches ∧ c.errand.task ≠ d.errand.task)

/-- The site has been switched. -/
structure Switched (m : Moment) (site : ActiveSite) : Prop where
  signal : m.signal = .switch site
  events : m.events = []
  after : m.after = { m.before with session := { m.before.session with site := site } }

/-- What has happened in a moment. -/
inductive Kind (m : Moment) : Prop
  | began (e : Errand) (h : m.Began e)
  | ran (d : Dispatch) (t : Stretch) (h : m.Ran d t)
  | switched (site : ActiveSite) (h : m.Switched site)

/-- Where a live dispatch comes from. -/
inductive Origin (m : Moment) (c : Dispatch) : Prop
  /-- The signal was not for it. -/
  | stayed (hmem : c ∈ m.before.dispatches) (hother : m.signal.task? ≠ some c.errand.task)
  | began (e : Errand) (hbegan : m.Began e)
      (hnow : c = ⟨e, e.authenticates, .sending m.after.session.generation⟩)
      (hsent : e.Sends m.before.session m.events) (hfind : m.after.find? e.task = some c)
  | ran (d : Dispatch) (t : Stretch) (hran : m.Ran d t) (hnext : t.next? = some c)

variable {m : Moment}

/-- What a step from an orderly session is. -/
theorem kind_of_step? (h : Orderly m.before.session m.before.dispatches)
    (hfresh : ∀ e, m.signal = .start e → ∀ c ∈ m.before.dispatches, c.errand.task ≠ e.task)
    (hstep : m.before.step? m.signal = some (m.after, m.events)) : m.Kind := by
  obtain ⟨w, signal, next, events⟩ := m
  have hsteps : w.Steps signal next events := Workload.step?_eq_some_iff.mp hstep
  cases hsteps with
  | started e =>
    refine .began e ⟨rfl, rfl, rfl, hfresh e rfl, ?_, fun c => ?_⟩
    · -- nobody has the task yet, so looking for it finds the dispatch that has begun
      have hnone : w.find? e.task = none :=
        List.find?_eq_none.mpr fun c hc => by simpa using hfresh e rfl c hc
      show (w.dispatches ++ _).find? (·.errand.task = e.task) = _
      rw [List.find?_append, show w.dispatches.find? (·.errand.task = e.task) = none from hnone,
        Option.none_or]
      obtain hnext | ⟨hnext, -⟩ := (e.start_cases w.session (.start e)).2
      · rw [hnext]; rfl
      · rw [hnext]; simp
    · rw [List.mem_append, Option.mem_toList]
  | @ran d signal t hfind hruns =>
    have hturn := hruns.turn (h.attended d (Workload.mem_of_find? hfind))
    have hnext : ∀ c, t.next? = some c → c.errand.task = d.errand.task := fun c hc => by
      rw [(hturn.errand_armed hc).1]
    exact .ran d t ⟨hruns, hturn, rfl, rfl, hfind, Workload.find?_run h.tasks hfind hnext,
      fun c => Workload.mem_run h.tasks hfind⟩
  | switched site => exact .switched site ⟨rfl, rfl, rfl⟩

/-- Whatever a moment is, each dispatch that is there after it has its origin in it. -/
theorem Kind.origin (h : m.Kind) {c : Dispatch} (hc : c ∈ m.after.dispatches) : m.Origin c := by
  cases h with
  | began e hm =>
    rcases (hm.mem_after c).mp hc with hmem | hnext
    · refine .stayed hmem ?_
      rw [hm.signal]
      exact fun he => hm.fresh c hmem (Option.some.inj he).symm
    · obtain hnone | ⟨hsome, hsent⟩ := (e.start_cases m.before.session m.signal).2
      · exact nomatch hnone.symm.trans hnext
      · rw [← hm.events] at hsent
        cases hsome.symm.trans hnext
        exact .began e hm (by rw [hm.session]) hsent (hm.find?_after.trans hsome)
  | ran d t hm =>
    rcases (hm.mem_after c).mp hc with hnext | ⟨hmem, hne⟩
    · exact .ran d t hm hnext
    · refine .stayed hmem ?_
      rw [hm.runs.task?_signal]
      exact fun he => hne (Option.some.inj he).symm
  | switched site hm =>
    rw [hm.after] at hc
    refine .stayed hc ?_
    rw [hm.signal]
    exact nofun

end Moment

/-! ### What holds all along a run -/

namespace Run

variable {history past : List Moment} {m : Moment} {w : Workload}

/-- Every state of a run is orderly, and its dispatches have started in the run. Each needs the
other: a task that starts is new to the history, and it has to be new to the workload. -/
theorem orderly_and_started (h : Run history w) :
    Orderly w.session w.dispatches ∧
      ∀ d ∈ w.dispatches, ∃ m ∈ history, m.signal = .start d.errand := by
  induction h with
  | idle site => exact ⟨Orderly.idle site, fun d hd => nomatch hd⟩
  | @step history m hrun hfresh hstep ih =>
    obtain ⟨horderly, hstarted⟩ := ih
    have hnew : ∀ e, m.signal = .start e → ∀ c ∈ m.before.dispatches, c.errand.task ≠ e.task := by
      intro e he c hc htask
      obtain ⟨past, hpast, hsignal⟩ := hstarted c hc
      exact hfresh e he past hpast (by rw [hsignal, ← htask]; rfl)
    refine ⟨horderly.steps (Workload.step?_eq_some_iff.mp hstep) hnew, fun c hc => ?_⟩
    have hold : ∀ d ∈ m.before.dispatches, ∃ x ∈ m :: history, x.signal = .start d.errand :=
      fun d hd => (hstarted d hd).imp fun x hx => ⟨List.mem_cons_of_mem _ hx.1, hx.2⟩
    cases (Moment.kind_of_step? horderly hnew hstep).origin hc with
    | stayed hmem => exact hold c hmem
    | began e hm hnow =>
      subst hnow
      exact ⟨m, List.mem_cons_self, hm.signal⟩
    | ran d t hm hnext =>
      rw [(hm.turn.errand_armed hnext).1]
      exact hold d (Workload.mem_of_find? hm.find?_before)

/-- The sessions of all runs are orderly. -/
theorem orderly (h : Run history w) : Orderly w.session w.dispatches := h.orderly_and_started.1

/-- A live dispatch has started in the run. -/
theorem started {d : Dispatch} (h : Run history w) (hd : d ∈ w.dispatches) :
    ∃ m ∈ history, m.signal = .start d.errand := h.orderly_and_started.2 d hd

/-- What has happened in the last moment of a run. -/
theorem kind (h : Run (m :: history) w) : m.Kind := by
  cases h with
  | step hrun hfresh hstep =>
    refine Moment.kind_of_step? hrun.orderly (fun e he c hc htask => ?_) hstep
    obtain ⟨past, hpast, hsignal⟩ := hrun.started hc
    exact hfresh e he past hpast (by rw [hsignal, ← htask]; rfl)

/-- Every moment of a run is the last one of a run. -/
theorem of_append {newer past : List Moment} (h : Run (newer ++ m :: past) w) :
    Run (m :: past) m.after := by
  induction newer generalizing w with
  | nil =>
    cases h with
    | step hrun hfresh hstep => exact .step hrun hfresh hstep
  | cons x newer ih =>
    cases h with
    | step hrun hfresh hstep => exact ih hrun

/-- Each moment of a history is the last one of an earlier run. -/
theorem exists_of_mem (h : Run history w) (hm : m ∈ history) :
    ∃ past, Run (m :: past) m.after := by
  obtain ⟨newer, past, rfl⟩ := List.append_of_mem hm
  exact ⟨past, h.of_append⟩

/-- Before a moment of a run there was a run. -/
theorem before (h : Run (m :: history) w) : Run history m.before := by
  cases h with
  | step hrun hfresh hstep => exact hrun

/-- A task that starts has not appeared before. -/
theorem fresh {e : Errand} (h : Run (m :: history) w) (hstart : m.signal = .start e) :
    ∀ past ∈ history, past.signal.task? ≠ some e.task := by
  cases h with
  | step hrun hfresh hstep => exact hfresh e hstart

/-- Where a run has come to is where its last moment has led. -/
theorem eq_after (h : Run (m :: past) w) : w = m.after := by
  cases h with
  | step hrun hfresh hstep => rfl

/-- A task starts once. -/
theorem errand_eq {x x' : Moment} {e e' : Errand} (h : Run history w) (hx : x ∈ history)
    (hx' : x' ∈ history) (hstart : x.signal = .start e) (hstart' : x'.signal = .start e')
    (htask : e.task = e'.task) : e = e' := by
  induction h with
  | idle site => exact nomatch hx
  | @step past m hrun hfresh hstep ih =>
    rcases List.mem_cons.mp hx with rfl | hlater <;>
      rcases List.mem_cons.mp hx' with rfl | hlater'
    · exact Signal.start.inj (hstart.symm.trans hstart')
    · -- the one that starts later is of a new task, which neither can be
      exact absurd (by rw [hstart', htask]; rfl) (hfresh e hstart x' hlater')
    · exact absurd (by rw [hstart, ← htask]; rfl) (hfresh e' hstart' x hlater)
    · exact ih hlater hlater'

end Run

/-! ### When a dialog opens -/

namespace Moment

variable {m : Moment} {task : Nat}

/-- Whether a task has opened its dialog. -/
def opens (m : Moment) (task : Nat) : Bool := opensDialog task m.signal m.events

/-- A dispatch that opens its dialog has not been overtaken by a login, and nobody else is inside
the turnstile. -/
structure Opened (m : Moment) (d : Dispatch) (t : Stretch) : Prop where
  ran : m.Ran d t
  next : ∀ c, t.next? = some c → c = ⟨d.errand, true, .prompting⟩
  seen : d.phase.seen? = some m.before.session.generation
  free : m.before.session.turnstile.holder? = none ∨
    m.before.session.turnstile.holder? = some d.errand.task
  login : d.logsIn m.signal = false

/-- A dialog can only open in a moment in which the dispatch of its task runs. -/
theorem Kind.opened (h : m.Kind) (hopens : m.opens task = true) :
    ∃ d t, d.errand.task = task ∧ m.Opened d t := by
  unfold opens at hopens
  cases h with
  | began e hm =>
    rw [hm.events] at hopens
    obtain rfl := task_eq_of_opensDialog (e.isOf_start _) hopens
    exact nomatch (e.start_cases _ m.signal).1.symm.trans hopens
  | ran d t hm =>
    rw [hm.events] at hopens
    obtain rfl := task_eq_of_opensDialog hm.runs.isOf hopens
    cases hm.turn with
    | ended hnone hquiet => exact nomatch hquiet.symm.trans hopens
    | queued seen hsome hphase hquiet hlogin => exact nomatch hquiet.symm.trans hopens
    | opened hall hseen hfree _ hlogin => exact ⟨d, t, rfl, hm, hall, hseen, hfree, hlogin⟩
    | askedAgain hsome hdialog hquiet hlogin => exact nomatch hquiet.symm.trans hopens
    | loggingIn hsome hphase hquiet hlogin => exact nomatch hquiet.symm.trans hopens
    | resent hsome hsent hquiet hlogin => exact nomatch hquiet.symm.trans hopens
  | switched site hm =>
    rw [hm.events] at hopens
    exact nomatch hopens

/-- A dialog opens only while no other is open. -/
theorem Opened.not_inDialog {d : Dispatch} {t : Stretch} (h : m.Opened d t)
    (horderly : Orderly m.before.session m.before.dispatches) {c : Dispatch}
    (hc : c ∈ m.before.dispatches) : c.phase.inDialog = false := by
  by_contra hdialog
  rw [Bool.not_eq_false] at hdialog
  have hinside := horderly.holder c hc hdialog
  rcases h.free with hnone | hsome
  · exact nomatch hnone.symm.trans hinside
  · -- the one in its dialog would be the one that opens it, which has read a generation
    have hfind := Workload.find?_of_mem horderly.tasks hc
    rw [← Option.some.inj (hsome.symm.trans hinside), h.ran.find?_before] at hfind
    cases hfind
    have hseen := h.seen
    revert hdialog hseen
    cases d.phase <;> simp

end Moment

end Courier
