import Courier.Proofs.Session.Turn

/-!
# `Courier.Proofs.Session.Step`: what a step of a workload does

`Workload.step?` looks up the dispatch that a signal is for, and then what that dispatch does in its
phase. Here the two are told apart: `Workload.Steps` lists the three kinds of step, in which a
dispatch begins, a dispatch runs, or the site is switched, and `step?_eq_some_iff` says that these
are the steps.

A dispatch that runs stays in its place between the others (`exists_split`), so a statement about a
step needs to be proved about what a dispatch does, and the others are carried along.
-/

set_option autoImplicit false

namespace Courier

namespace Workload

variable {w next : Workload} {task : Nat} {c d : Dispatch} {signal : Signal} {events : List Event}

/-- The steps of a workload. -/
inductive Steps (w : Workload) : Signal → Workload → List Event → Prop
  | started (e : Errand) :
      Steps w (.start e)
        ⟨(e.start w.session).session, w.dispatches ++ (e.start w.session).next?.toList⟩
        (e.start w.session).events
  | ran {d : Dispatch} {signal : Signal} {t : Stretch} (hfind : w.find? d.errand.task = some d)
      (hruns : d.Runs w.session signal t) :
      Steps w signal (w.run d.errand.task t).1 (w.run d.errand.task t).2
  | switched (site : ActiveSite) :
      Steps w (.switch site) { w with session := { w.session with site := site } } []

/-- What is found is there. -/
theorem mem_of_find? (h : w.find? task = some d) : d ∈ w.dispatches :=
  List.mem_of_find?_eq_some h

/-- It is the dispatch of the task that was looked for. -/
theorem task_of_find? (h : w.find? task = some d) : d.errand.task = task := by
  simpa using List.find?_some h

/-- Each signal that has an effect makes one of the steps. -/
theorem steps_of_step? (h : w.step? signal = some (next, events)) : w.Steps signal next events := by
  -- a signal finds its dispatch, and has an effect only in the phase that waits for it
  cases signal with
  | start e => cases h; exact .started e
  | answer task outcome =>
    obtain ⟨⟨e, armed, phase⟩, hfind, h⟩ := Option.bind_eq_some_iff.mp h
    obtain rfl := task_of_find? hfind
    cases phase with
    | sending seen => cases h; exact .ran hfind (.received e armed seen outcome)
    | atTurnstile seen => exact nomatch h
    | prompting => exact nomatch h
    | loggingIn => cases h; exact .ran hfind (.loggedIn e armed outcome)
  | credentials task entered =>
    obtain ⟨⟨e, armed, phase⟩, hfind, h⟩ := Option.bind_eq_some_iff.mp h
    obtain rfl := task_of_find? hfind
    cases phase with
    | sending seen => exact nomatch h
    | atTurnstile seen => exact nomatch h
    | prompting => cases h; exact .ran hfind (.answered e armed entered)
    | loggingIn => exact nomatch h
  | proceed task =>
    obtain ⟨⟨e, armed, phase⟩, hfind, h⟩ := Option.bind_eq_some_iff.mp h
    obtain rfl := task_of_find? hfind
    cases phase with
    | sending seen => exact nomatch h
    | atTurnstile seen =>
      obtain ⟨hinside, h⟩ := Option.ite_none_right_eq_some.mp h
      cases h
      exact .ran hfind (.admitted e armed seen hinside)
    | prompting => exact nomatch h
    | loggingIn => exact nomatch h
  | drop task =>
    obtain ⟨d, hfind, h⟩ := Option.bind_eq_some_iff.mp h
    obtain rfl := task_of_find? hfind
    cases h
    exact .ran hfind (.dropped d)
  | switch site => cases h; exact .switched site

/-- Each of the steps is made by its signal. -/
theorem step?_of_steps (h : w.Steps signal next events) :
    w.step? signal = some (next, events) := by
  cases h with
  | started e => rfl
  | ran hfind hruns =>
    cases hruns with
    | received e armed seen outcome => exact Option.bind_eq_some_iff.mpr ⟨_, hfind, rfl⟩
    | loggedIn e armed outcome => exact Option.bind_eq_some_iff.mpr ⟨_, hfind, rfl⟩
    | answered e armed entered => exact Option.bind_eq_some_iff.mpr ⟨_, hfind, rfl⟩
    | admitted e armed seen hinside =>
      exact Option.bind_eq_some_iff.mpr ⟨_, hfind, if_pos hinside⟩
    | dropped d => exact Option.bind_eq_some_iff.mpr ⟨_, hfind, rfl⟩
  | switched site => rfl

/-- The steps are what signals do. -/
theorem step?_eq_some_iff :
    w.step? signal = some (next, events) ↔ w.Steps signal next events :=
  ⟨steps_of_step?, step?_of_steps⟩

/-! ### The place of a dispatch -/

/-- Each task has one dispatch at most. -/
def Distinct (w : Workload) : Prop := (w.dispatches.map (·.errand.task)).Nodup

/-- The others are the dispatches of other tasks. -/
theorem mem_others : c ∈ w.others task ↔ c ∈ w.dispatches ∧ c.errand.task ≠ task := by
  simp [others]

/-- The dispatch of a task stands between others, and what it becomes takes its place. -/
theorem exists_split (htasks : w.Distinct) (h : w.find? task = some d) :
    ∃ front back, w.dispatches = front ++ d :: back ∧ w.others task = front ++ back ∧
      ∀ next?, w.replace task next? = front ++ next?.toList ++ back := by
  have htask := task_of_find? h
  obtain ⟨-, front, back, hsplit, -⟩ := List.find?_eq_some_iff_append.mp h
  rw [Distinct, hsplit, List.map_append, List.map_cons, List.perm_middle.nodup_iff,
    List.nodup_cons, List.mem_append, htask] at htasks
  -- the task is not among those of the others, so looking for it finds this dispatch alone
  obtain ⟨hother, -⟩ := htasks
  have hfront : ∀ c ∈ front, c.errand.task ≠ task := fun c hc he =>
    hother (Or.inl (List.mem_map.mpr ⟨c, hc, he⟩))
  have hback : ∀ c ∈ back, c.errand.task ≠ task := fun c hc he =>
    hother (Or.inr (List.mem_map.mpr ⟨c, hc, he⟩))
  have hothers : w.others task = front ++ back := by
    unfold others
    rw [hsplit, List.filter_append, List.filter_cons_of_neg (by simp [htask]),
      List.filter_eq_self.mpr (by simpa using hfront),
      List.filter_eq_self.mpr (by simpa using hback)]
  refine ⟨front, back, hsplit, hothers, fun next? => ?_⟩
  cases next? with
  | none => simpa [replace] using hothers
  | some next =>
    have hkeep : ∀ l : List Dispatch, (∀ c ∈ l, c.errand.task ≠ task) →
        l.map (fun c => if c.errand.task = task then next else c) = l := fun l hl =>
      (List.map_congr_left fun c hc => if_neg (hl c hc)).trans l.map_id'
    simp only [replace]
    rw [hsplit, List.map_append, List.map_cons, hkeep _ hfront, hkeep _ hback, if_pos htask]
    simp

/-- The dispatch of a task can be taken as the one in front. -/
theorem perm_cons_others (htasks : w.Distinct) (h : w.find? task = some d) :
    w.dispatches.Perm (d :: w.others task) := by
  obtain ⟨front, back, hsplit, hothers, -⟩ := exists_split htasks h
  rw [hsplit, hothers]
  exact List.perm_middle

/-- What it becomes can be taken as the one in front, too. -/
theorem perm_run (htasks : w.Distinct) (h : w.find? task = some d) (t : Stretch) :
    (w.run task t).1.dispatches.Perm (t.next?.toList ++ w.others task) := by
  obtain ⟨front, back, -, hothers, hreplace⟩ := exists_split htasks h
  show (w.replace task t.next?).Perm _
  rw [hothers, hreplace, ← List.append_assoc]
  exact List.perm_append_comm.append_right _

/-- After a dispatch has run there is what it has become, and the dispatches of other tasks. -/
theorem mem_run (htasks : w.Distinct) (h : w.find? task = some d) {t : Stretch} :
    c ∈ (w.run task t).1.dispatches ↔
      t.next? = some c ∨ (c ∈ w.dispatches ∧ c.errand.task ≠ task) := by
  rw [(perm_run htasks h t).mem_iff, List.mem_append, mem_others, Option.mem_toList]

/-- After a run the dispatch of the task is what the run has left of it. -/
theorem find?_run (htasks : w.Distinct) (h : w.find? task = some d) {t : Stretch}
    (hnext : ∀ c, t.next? = some c → c.errand.task = task) :
    (w.run task t).1.find? task = t.next? := by
  obtain ⟨front, back, -, hothers, hreplace⟩ := exists_split htasks h
  have hother : ∀ c ∈ front ++ back, c.errand.task ≠ task := fun c hc =>
    (mem_others.mp (hothers ▸ hc)).2
  have hnone : ∀ l : List Dispatch, (∀ c ∈ l, c ∈ front ++ back) →
      l.find? (·.errand.task = task) = none := fun l hl =>
    List.find?_eq_none.mpr fun c hc => by simpa using hother c (hl c hc)
  show (w.replace task t.next?).find? (·.errand.task = task) = t.next?
  rw [hreplace, List.find?_append, List.find?_append,
    hnone front fun c hc => List.mem_append_left _ hc,
    hnone back fun c hc => List.mem_append_right _ hc]
  cases hcase : t.next? with
  | none => rfl
  | some c => simp [hnext c hcase]

/-- As tasks are distinct, each dispatch is found by its own. -/
theorem find?_of_mem (htasks : w.Distinct) (h : d ∈ w.dispatches) :
    w.find? d.errand.task = some d := by
  cases hfind : w.find? d.errand.task with
  | none => simpa using List.find?_eq_none.mp hfind d h
  | some c =>
    have htask := task_of_find? hfind
    rw [List.inj_on_of_nodup_map htasks (mem_of_find? hfind) h htask]

end Workload

end Courier
