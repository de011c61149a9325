import Courier.Proofs.Session.OneDialog

/-!
# `Courier.Proofs.Session.Coalescing`: one login serves all who wait for one

A dispatch reads the generation when it sends its request, and compares it when it stands inside the
turnstile. If there has been a login in between, it sends the request again and asks nobody. That
this works depends on where the generation is read and where it is compared, with logins completing
at any time in other dispatches.

What carries the proofs is the count of logins: as long as what a dispatch has read matters, the
generation is what it has read and the number of logins since its last request
(`Run.generation_eq`).
So a dispatch that finds the generation as it was opens its dialog with no login missed
(`Run.no_login_since`), and one that finds another one has a login to thank for it
(`Run.login_between`).

A login serves every dispatch once. A dispatch sends its request once more for each of them at most
(`Run.sendsOf_le`), and of the dialogs that open at one generation one at most ends in a login
(`Run.wonAt_spec`).
-/

set_option autoImplicit false

namespace Courier

/-- Whether the event is that a task sends a request. -/
def Event.isSent (task : Nat) : Event → Bool
  | .sent t _ => decide (t = task)
  | _ => false

namespace Moment

/-- The dispatch that the signal is for. -/
def dispatch? (m : Moment) : Option Dispatch := m.signal.task?.bind m.before.find?

/-- Whether a login has succeeded, out of a dialog or as a call that the operator asked for. -/
def logsIn (m : Moment) : Bool := m.dispatch?.any (·.logsIn m.signal)

/-- Whether a task has sent the request of its call, to whose answer it looks forward now. -/
def sends (m : Moment) (task : Nat) : Bool :=
  m.events.any (·.isSent task) && (m.after.find? task).any (!·.phase.inLine)

/-- Whether the dispatch of a task has lived through a moment. -/
def isLive (m : Moment) (task : Nat) : Bool :=
  (m.before.find? task).isSome && (m.after.find? task).isSome

/-- The task whose dialog has ended in a login. -/
def wins? (m : Moment) : Option Nat :=
  m.dispatch?.bind fun d =>
    if d.phase.inDialog && d.logsIn m.signal then some d.errand.task else none

end Moment

/-- The moments since a task has last sent its request. -/
def since (task : Nat) (history : List Moment) : List Moment :=
  history.takeWhile fun m => !m.sends task

/-- How often a task has sent the request of its call. -/
def sendsOf (task : Nat) (history : List Moment) : Nat := history.countP (·.sends task)

/-- How many logins have succeeded while the dispatch of a task was live. -/
def loginsDuring (task : Nat) (history : List Moment) : Nat :=
  history.countP fun m => m.logsIn && m.isLive task

/-- The generation at which a task has last opened its dialog. -/
def openedAt (task : Nat) (history : List Moment) : Option Nat :=
  (history.find? (·.opens task)).map (·.before.session.generation)

/-- For each dialog that has ended in a login the generation at which it had opened, the last one
first. -/
def wonAt : List Moment → List (Option Nat)
  | [] => []
  | m :: past =>
    match m.wins? with
    | none => wonAt past
    | some task => openedAt task past :: wonAt past

/-! ### What a moment adds to the counts -/

namespace Moment

variable {m : Moment} {d : Dispatch} {t : Stretch} {e : Errand} {site : ActiveSite} {task : Nat}

/-- The dispatch of a moment is the one that runs in it. -/
theorem Ran.dispatch? (h : m.Ran d t) : m.dispatch? = some d := by
  rw [Moment.dispatch?, h.runs.task?_signal]
  exact h.find?_before

/-- Whether a moment is a login is for the dispatch that runs in it to say. -/
theorem Ran.logsIn (h : m.Ran d t) : m.logsIn = d.logsIn m.signal := by
  rw [Moment.logsIn, h.dispatch?]
  rfl

/-- A dispatch that begins has not logged in. -/
theorem Began.logsIn (h : m.Began e) : m.logsIn = false := by
  rw [Moment.logsIn, h.signal]
  cases m.dispatch? <;> rfl

/-- Switching the site is no login. -/
theorem Switched.logsIn (h : m.Switched site) : m.logsIn = false := by
  rw [Moment.logsIn, h.signal]
  cases m.dispatch? <;> rfl

/-- The generation counts the logins. -/
theorem Kind.generation (h : m.Kind) :
    m.after.session.generation = m.before.session.generation + if m.logsIn then 1 else 0 := by
  cases h with
  | began e hm =>
    rw [hm.session, hm.logsIn]
    exact e.generation_start _
  | ran d t hm =>
    rw [hm.session, hm.logsIn]
    exact hm.runs.generation
  | switched site hm =>
    rw [hm.after, hm.logsIn]
    rfl

/-- A task that sends is the one whose events these are. -/
theorem task_eq_of_isSent {other : Nat} {events : List Event}
    (h : events.all (·.isOf task) = true) (hsent : events.any (·.isSent other) = true) :
    other = task := by
  obtain ⟨event, hevent, hs⟩ := List.any_eq_true.mp hsent
  have hof := List.all_eq_true.mp h event hevent
  cases event with
  | sent t request =>
    simp only [Event.isOf, Event.isSent, decide_eq_true_eq] at hof hs
    exact hs.symm.trans hof
  | loading front visible => cases hs
  | notice front t notice => cases hs
  | asked t lastError => cases hs
  | ended t result => cases hs

/-- A request is sent by the task that the signal is for. -/
theorem Kind.task?_of_sends (h : m.Kind) (hsends : m.sends task = true) :
    m.signal.task? = some task := by
  obtain ⟨hsent, -⟩ := Bool.and_eq_true_iff.mp hsends
  cases h with
  | began e hm =>
    rw [hm.events] at hsent
    rw [hm.signal, task_eq_of_isSent (e.isOf_start _) hsent]
    rfl
  | ran d t hm =>
    rw [hm.events] at hsent
    rw [hm.runs.task?_signal, task_eq_of_isSent hm.runs.isOf hsent]
  | switched site hm =>
    rw [hm.events] at hsent
    exact nomatch hsent

/-- A task sends its request in a moment if its dispatch does, and then waits for the answer. -/
theorem sends_of_sends {s : Session} {c : Dispatch} {seen : Nat} (hsent : d.errand.Sends s m.events)
    (hfind : m.after.find? d.errand.task = some c) (hphase : c.phase = .sending seen) :
    m.sends d.errand.task = true := by
  obtain ⟨request, -, hsent⟩ := hsent
  refine Bool.and_eq_true_iff.mpr ⟨List.any_eq_true.mpr ⟨_, hsent, ?_⟩, ?_⟩
  · simp [Event.isSent]
  · rw [hfind, Option.any_some, hphase]
    rfl

/-- What a dispatch has read of the generation it has read in this moment, when it sent its
request, or it has not sent anything and had read it before. -/
theorem Kind.seen_cases (h : m.Kind) {c : Dispatch} (hc : c ∈ m.after.dispatches) {seen : Nat}
    (hseen : c.phase.seen? = some seen) :
    (m.sends c.errand.task = true ∧ seen = m.after.session.generation) ∨
      (m.sends c.errand.task = false ∧ ∃ d ∈ m.before.dispatches,
        d.errand.task = c.errand.task ∧ d.phase.seen? = some seen) := by
  cases h.origin hc with
  | stayed hmem hother =>
    exact .inr ⟨by simpa using mt h.task?_of_sends hother, c, hmem, rfl, hseen⟩
  | began e hm hnow hsent hfind =>
    subst hnow
    cases hseen
    exact .inl ⟨sends_of_sends hsent hfind rfl, rfl⟩
  | ran d t hm hnext =>
    have hfind := hm.find?_after
    cases hm.turn with
    | ended hnone => exact nomatch hnone.symm.trans hnext
    | queued seen' hsome hphase =>
      -- it carries what it has read to the turnstile
      cases hsome.symm.trans hnext
      cases hseen
      refine .inr ⟨?_, d, Workload.mem_of_find? hm.find?_before, rfl, by rw [hphase]; rfl⟩
      simp [sends, hfind, hsome]
    | opened hall => cases hall c hnext; exact nomatch hseen
    | askedAgain hsome => cases hsome.symm.trans hnext; exact nomatch hseen
    | loggingIn hsome => cases hsome.symm.trans hnext; exact nomatch hseen
    | resent hsome hsent =>
      rw [← hm.events] at hsent
      cases hsome.symm.trans hnext
      cases hseen
      refine .inl ⟨sends_of_sends hsent (hfind.trans hsome) rfl, ?_⟩
      rw [hm.session]

/-- A request is sent for the first time when its task starts, and again only by a dispatch that has
logged in or finds that somebody else has. -/
theorem Kind.sends_cases (h : m.Kind) (hsends : m.sends task = true) :
    (∃ e, m.signal = .start e ∧ e.task = task ∧ e.Sends m.before.session m.events) ∨
      ∃ d ∈ m.before.dispatches, d.errand.task = task ∧ d.errand.Sends m.before.session m.events ∧
        m.isLive task = true ∧
        (m.logsIn = true ∨
          ∃ seen, d.phase.seen? = some seen ∧ seen ≠ m.before.session.generation) := by
  have htask := h.task?_of_sends hsends
  obtain ⟨-, hafter⟩ := Bool.and_eq_true_iff.mp hsends
  cases h with
  | began e hm =>
    rw [hm.signal] at htask
    obtain rfl : e.task = task := Option.some.inj htask
    rw [hm.find?_after] at hafter
    obtain hnone | ⟨-, hsent⟩ := (e.start_cases m.before.session m.signal).2
    · rw [hnone] at hafter
      exact nomatch hafter
    · rw [← hm.events] at hsent
      exact .inl ⟨e, hm.signal, rfl, hsent⟩
  | ran d t hm =>
    obtain rfl := Option.some.inj (hm.runs.task?_signal.symm.trans htask)
    rw [hm.find?_after] at hafter
    have hlive : ∀ {c}, t.next? = some c → m.isLive d.errand.task = true := fun hsome => by
      simp [isLive, hm.find?_before, hm.find?_after, hsome]
    refine .inr ⟨d, Workload.mem_of_find? hm.find?_before, rfl, ?_⟩
    -- of all that a dispatch may come to, only one turn leaves it waiting for an answer again
    cases hm.turn with
    | ended hnone hquiet => rw [hnone] at hafter; exact nomatch hafter
    | queued seen hsome hphase => rw [hsome] at hafter; exact nomatch hafter
    | opened hall =>
      cases hcase : t.next? with
      | none => rw [hcase] at hafter; exact nomatch hafter
      | some c =>
        rw [hcase, hall c hcase] at hafter
        exact nomatch hafter
    | askedAgain hsome hdialog => rw [hsome] at hafter; exact nomatch hafter
    | loggingIn hsome hphase => rw [hsome] at hafter; exact nomatch hafter
    | resent hsome hsent hquiet hlogin =>
      rw [hm.logsIn, hm.events]
      exact ⟨hsent, hlive hsome, hlogin⟩
  | switched site hm =>
    rw [hm.signal] at htask
    exact nomatch htask

end Moment

/-- A dispatch that is let in and finds that there has been a login sends its request again. -/
theorem Dispatch.Runs.resends {s : Session} {d : Dispatch} {task : Nat} {t : Stretch}
    (h : d.Runs s (.proceed task) t)
    (hnewer : ∀ seen, d.phase.seen? = some seen → s.generation ≠ seen) :
    (t.next? = some ⟨d.errand, true, .sending t.session.generation⟩ ∧ d.errand.Sends s t.events) ∨
      ∃ cause, .ended d.errand.task (.error (.encode cause)) ∈ t.events := by
  cases h with
  | admitted e armed seen hinside =>
    unfold Errand.admitted
    rw [if_neg (hnewer seen rfl)]
    exact (e.send_cases true _ (.proceed e.task)).2.symm.imp id And.right

/-! ### The generation a dispatch has read -/

/-- After a request has been sent nothing has happened since. -/
theorem since_cons_of_sends {m : Moment} {task : Nat} {past : List Moment}
    (h : m.sends task = true) : since task (m :: past) = [] :=
  List.takeWhile_cons_of_neg (by simp [h])

/-- Any other moment has happened since the request was sent before it. -/
theorem since_cons_of_not_sends {m : Moment} {task : Nat} {past : List Moment}
    (h : m.sends task = false) : since task (m :: past) = m :: since task past :=
  List.takeWhile_cons_of_pos (by simp [h])

namespace Run

variable {history past : List Moment} {m : Moment} {w : Workload} {d : Dispatch} {task seen : Nat}

/-- What a dispatch has read is the generation without the logins since it sent its request. -/
theorem generation_eq (h : Run history w) (hd : d ∈ w.dispatches)
    (hseen : d.phase.seen? = some seen) :
    (∃ r ∈ history, r.sends d.errand.task = true) ∧
      w.session.generation = seen + (since d.errand.task history).countP (·.logsIn) := by
  induction h generalizing d seen with
  | idle site => exact nomatch hd
  | @step past m hrun hfresh hstep ih =>
    have hkind := (Run.step hrun hfresh hstep).kind
    rcases hkind.seen_cases hd hseen with ⟨hsends, rfl⟩ | ⟨hsends, c, hc, htask, hread⟩
    · -- it has just read the generation, and no moment has passed since
      refine ⟨⟨m, List.mem_cons_self, hsends⟩, ?_⟩
      rw [since_cons_of_sends hsends]
      rfl
    · -- it has read the generation before, and this moment adds its own login to both sides
      obtain ⟨⟨r, hr, hsent⟩, hgeneration⟩ := ih hc hread
      rw [htask] at hsent hgeneration
      refine ⟨⟨r, List.mem_cons_of_mem _ hr, hsent⟩, ?_⟩
      rw [since_cons_of_not_sends hsends, List.countP_cons, hkind.generation, hgeneration,
        Nat.add_assoc]

/-- A dispatch that opens its dialog has missed no login. -/
theorem no_login_since (h : Run (m :: past) w) (hopens : m.opens task = true) :
    (∃ r ∈ past, r.sends task = true) ∧ m.logsIn = false ∧
      ∀ x ∈ since task past, x.logsIn = false := by
  obtain ⟨d, t, rfl, hopened⟩ := h.kind.opened hopens
  have hd := Workload.mem_of_find? hopened.ran.find?_before
  obtain ⟨hsent, hgeneration⟩ := h.before.generation_eq hd hopened.seen
  refine ⟨hsent, hopened.ran.logsIn.trans hopened.login, fun x hx => ?_⟩
  have hnone : (since d.errand.task past).countP (·.logsIn) = 0 := by omega
  simpa using List.countP_eq_zero.mp hnone x hx

/-- A dispatch that comes to stand inside the turnstile after a login does not open its dialog. It
sends its request again, unless the request has no bytes by now. -/
theorem resends_after_login (h : Run (m :: past) w) (hsignal : m.signal = .proceed task)
    (hlogin : ∃ x ∈ since task past, x.logsIn = true) :
    m.opens task = false ∧
      (m.sends task = true ∨ ∃ cause, .ended task (.error (.encode cause)) ∈ m.events) := by
  constructor
  · by_contra hopens
    obtain ⟨x, hx, hlogs⟩ := hlogin
    obtain ⟨-, -, hnone⟩ := h.no_login_since (by simpa using hopens)
    exact nomatch (hnone x hx).symm.trans hlogs
  · cases h.kind with
    | began e hm => exact nomatch hm.signal.symm.trans hsignal
    | switched site hm => exact nomatch hm.signal.symm.trans hsignal
    | ran d t hm =>
      have hruns := hm.runs
      have htask := hruns.task?_signal
      rw [hsignal] at hruns htask
      obtain rfl : task = d.errand.task := Option.some.inj htask
      -- the generation counts the logins, so it is no longer the one that was read
      have hnewer : ∀ seen, d.phase.seen? = some seen → m.before.session.generation ≠ seen := by
        intro seen hread
        have hd := Workload.mem_of_find? hm.find?_before
        have hgeneration := (h.before.generation_eq hd hread).2
        have hpos : 0 < (since d.errand.task past).countP (·.logsIn) :=
          List.countP_pos_iff.mpr hlogin
        omega
      obtain ⟨hnext, hsent⟩ | hended := hruns.resends hnewer
      · rw [← hm.events] at hsent
        exact .inl (Moment.sends_of_sends hsent (hm.find?_after.trans hnext) rfl)
      · rw [hm.events]
        exact .inr hended

/-- A task that starts has sent nothing before. -/
theorem not_sends_of_start {e : Errand} (h : Run (m :: past) w) (hstart : m.signal = .start e) :
    ∀ r ∈ past, r.sends e.task = false := by
  intro r hr
  obtain ⟨older, hrun⟩ := h.before.exists_of_mem hr
  simpa using mt hrun.kind.task?_of_sends (h.fresh hstart r hr)

/-- A login lies between two requests that a dispatch sends for its call. -/
theorem login_between (h : Run (m :: past) w) (hsends : m.sends task = true)
    (hbefore : ∃ r ∈ past, r.sends task = true) : ∃ x ∈ m :: since task past, x.logsIn = true := by
  obtain ⟨r, hr, hsent⟩ := hbefore
  rcases h.kind.sends_cases hsends with
    ⟨e, hstart, rfl, -⟩ | ⟨d, hd, rfl, -, -, hlogin | ⟨seen, hread, hne⟩⟩
  · exact nomatch (h.not_sends_of_start hstart r hr).symm.trans hsent
  · exact ⟨m, List.mem_cons_self, hlogin⟩
  · -- another generation than the one it has read means that logins were counted since
    have hgeneration := (h.before.generation_eq hd hread).2
    have hpos : 0 < (since d.errand.task past).countP (·.logsIn) := by omega
    obtain ⟨x, hx, hlogin⟩ := List.countP_pos_iff.mp hpos
    exact ⟨x, List.mem_cons_of_mem _ hx, hlogin⟩

/-- The step of the count below: a request is sent for the first time, or after a login that is
counted already or in this moment. -/
theorem sendsOf_cons_le (h : Run (m :: past) w)
    (hcount : sendsOf task past ≤ 1 + loginsDuring task past)
    (hread : ∀ d ∈ m.before.dispatches, d.errand.task = task → ∀ seen, d.phase.seen? = some seen →
      sendsOf task past + m.before.session.generation ≤ 1 + loginsDuring task past + seen) :
    sendsOf task (m :: past) ≤ 1 + loginsDuring task (m :: past) := by
  unfold sendsOf loginsDuring at *
  rw [List.countP_cons, List.countP_cons]
  by_cases hsends : m.sends task = true
  · rw [if_pos hsends]
    rcases h.kind.sends_cases hsends with
      ⟨e, hstart, rfl, -⟩ | ⟨d, hd, htask, -, hlive, hlogin | ⟨seen, hseen, hne⟩⟩
    · -- the first request
      have hnone : past.countP (·.sends e.task) = 0 :=
        List.countP_eq_zero.mpr fun r hr => by simp [h.not_sends_of_start hstart r hr]
      omega
    · -- a login in this moment, which counts as well
      rw [hlogin, hlive]
      simp only [Bool.and_self, if_true]
      omega
    · -- a login that has been counted before and not been used up
      have hle := h.before.orderly.seen_le d hd seen hseen
      have hnow := hread d hd htask seen hseen
      omega
  · rw [if_neg hsends]
    omega

/-- A dispatch sends its request once, and once more at most for every login while it is live. The
second part carries the induction: a dispatch that has not used up the logins since it has read the
generation has as many requests left. -/
theorem sendsOf_le (h : Run history w) :
    (∀ task, sendsOf task history ≤ 1 + loginsDuring task history) ∧
      ∀ d ∈ w.dispatches, ∀ seen, d.phase.seen? = some seen →
        sendsOf d.errand.task history + w.session.generation ≤
          1 + loginsDuring d.errand.task history + seen := by
  induction h with
  | idle site => exact ⟨fun task => Nat.zero_le _, fun d hd => nomatch hd⟩
  | @step past m hrun hfresh hstep ih =>
    have hnow := Run.step hrun hfresh hstep
    obtain ⟨hcount, hread⟩ := ih
    have hfirst : ∀ task, sendsOf task (m :: past) ≤ 1 + loginsDuring task (m :: past) :=
      fun task => hnow.sendsOf_cons_le (hcount task) fun d hd htask => htask ▸ hread d hd
    refine ⟨hfirst, fun c hc seen hseen => ?_⟩
    -- the generation was read just now, or before, and then nothing has been sent since
    rcases hnow.kind.seen_cases hc hseen with ⟨-, rfl⟩ | ⟨hsends, d, hd, htask, hbefore⟩
    · exact Nat.add_le_add_right (hfirst c.errand.task) _
    · have hlive : m.isLive c.errand.task = true := by
        have hfind := Workload.find?_of_mem hrun.orderly.tasks hd
        rw [htask] at hfind
        simp [Moment.isLive, hfind, Workload.find?_of_mem hnow.orderly.tasks hc]
      have hstays := hread d hd seen hbefore
      rw [htask] at hstays
      unfold sendsOf loginsDuring at *
      rw [List.countP_cons, List.countP_cons, hnow.kind.generation, hsends, hlive, Bool.and_true]
      simp only [Bool.false_eq_true, if_false]
      omega

end Run

/-! ### Dialogs that end in a login -/

namespace Moment

variable {m : Moment} {d c : Dispatch} {t : Stretch} {e : Errand} {site : ActiveSite} {task : Nat}

/-- The task of a dialog wins if its dispatch logs in. -/
theorem Ran.wins? (h : m.Ran d t) :
    m.wins? = if d.phase.inDialog && d.logsIn m.signal then some d.errand.task else none := by
  rw [Moment.wins?, h.dispatch?]
  rfl

/-- A dialog that ends in a login is the one of the dispatch that has run, and it was open. -/
theorem Kind.wins?_eq_some (h : m.Kind) (hwins : m.wins? = some task) :
    ∃ d t, m.Ran d t ∧ d.errand.task = task ∧ d.phase.inDialog = true ∧ m.logsIn = true := by
  cases h with
  | began e hm =>
    rw [Moment.wins?, hm.signal] at hwins
    obtain ⟨d, -, hd⟩ := Option.bind_eq_some_iff.mp hwins
    obtain ⟨hcond, -⟩ := Option.ite_none_right_eq_some.mp hd
    exact nomatch (Bool.and_eq_true_iff.mp hcond).2
  | ran d t hm =>
    rw [hm.wins?] at hwins
    obtain ⟨hcond, htask⟩ := Option.ite_none_right_eq_some.mp hwins
    obtain ⟨hdialog, hlogin⟩ := Bool.and_eq_true_iff.mp hcond
    exact ⟨d, t, hm, Option.some.inj htask, hdialog, hm.logsIn.trans hlogin⟩
  | switched site hm =>
    rw [Moment.wins?, hm.signal] at hwins
    obtain ⟨d, -, hd⟩ := Option.bind_eq_some_iff.mp hwins
    obtain ⟨hcond, -⟩ := Option.ite_none_right_eq_some.mp hd
    exact nomatch (Bool.and_eq_true_iff.mp hcond).2

/-- After a dialog has ended in a login, no dialog is open. -/
theorem Kind.not_inDialog_of_wins (h : m.Kind)
    (horderly : Orderly m.before.session m.before.dispatches) (hwins : m.wins? = some task)
    (hc : c ∈ m.after.dispatches) : c.phase.inDialog = false := by
  obtain ⟨d, t, hm, -, hdialog, hlogin⟩ := h.wins?_eq_some hwins
  rw [hm.logsIn] at hlogin
  rcases (hm.mem_after c).mp hc with hnext | ⟨hmem, hne⟩
  · cases hm.turn with
    | ended hnone hquiet => exact nomatch hnone.symm.trans hnext
    | queued seen hsome hphase hquiet hnot => exact nomatch hnot.symm.trans hlogin
    | opened hall hseen hfree hopens hnot => exact nomatch hnot.symm.trans hlogin
    | askedAgain hsome hdialog hquiet hnot => exact nomatch hnot.symm.trans hlogin
    | loggingIn hsome hphase hquiet hnot => exact nomatch hnot.symm.trans hlogin
    | resent hsome =>
      cases hsome.symm.trans hnext
      rfl
  · by_contra hopen
    have hd := Workload.mem_of_find? hm.find?_before
    rw [Bool.not_eq_false] at hopen
    exact hne (congrArg (·.errand.task) (horderly.eq_of_inDialog hmem hd hopen hdialog))

/-- A dialog that is open has opened in this moment, or was open before. -/
theorem Kind.dialog_cases (h : m.Kind) (hc : c ∈ m.after.dispatches)
    (hdialog : c.phase.inDialog = true) :
    m.opens c.errand.task = true ∨
      m.opens c.errand.task = false ∧ ∃ d ∈ m.before.dispatches,
        d.errand.task = c.errand.task ∧ d.phase.inDialog = true := by
  by_cases hopens : m.opens c.errand.task = true
  · exact .inl hopens
  refine .inr ⟨by simpa using hopens, ?_⟩
  cases h.origin hc with
  | stayed hmem => exact ⟨c, hmem, rfl, hdialog⟩
  | began e hm hnow =>
    subst hnow
    exact nomatch hdialog
  | ran d t hm hnext =>
    have hd := Workload.mem_of_find? hm.find?_before
    -- a dialog that is open after a turn was opened by it, or the turn stayed inside it
    cases hm.turn with
    | ended hnone => exact nomatch hnone.symm.trans hnext
    | queued seen hsome => cases hsome.symm.trans hnext; exact nomatch hdialog
    | opened hall hseen hfree hopened =>
      rw [Moment.opens, hm.events, hall c hnext] at hopens
      exact absurd hopened hopens
    | askedAgain hsome hbefore => cases hsome.symm.trans hnext; exact ⟨d, hd, rfl, hbefore⟩
    | loggingIn hsome hphase =>
      cases hsome.symm.trans hnext
      exact ⟨d, hd, rfl, by rw [hphase]; rfl⟩
    | resent hsome => cases hsome.symm.trans hnext; exact nomatch hdialog

end Moment

/-- A dialog that opens, opens at the generation that the session has before. -/
theorem openedAt_cons_of_opens {m : Moment} {task : Nat} {past : List Moment}
    (h : m.opens task = true) :
    openedAt task (m :: past) = some m.before.session.generation := by
  simp [openedAt, h]

/-- A moment in which the dialog does not open changes nothing about when it did. -/
theorem openedAt_cons_of_not_opens {m : Moment} {task : Nat} {past : List Moment}
    (h : m.opens task = false) : openedAt task (m :: past) = openedAt task past := by
  simp [openedAt, h]

/-- All of these are generations before this one. -/
def Before (generation : Nat) (opened : List (Option Nat)) : Prop :=
  ∀ x ∈ opened, ∃ g, x = some g ∧ g < generation

/-- Dialogs that were opened before a generation were opened before any later one. -/
theorem Before.mono {generation later : Nat} {opened : List (Option Nat)}
    (h : Before generation opened) (hle : generation ≤ later) : Before later opened := by
  intro x hx
  obtain ⟨g, he, hlt⟩ := h x hx
  exact ⟨g, he, Nat.lt_of_lt_of_le hlt hle⟩

/-- None of them was opened at this generation. -/
theorem Before.not_mem {generation : Nat} {opened : List (Option Nat)}
    (h : Before generation opened) : some generation ∉ opened := by
  intro hmem
  obtain ⟨g, he, hlt⟩ := h _ hmem
  exact Nat.lt_irrefl g (Option.some.inj he ▸ hlt)

namespace Run

variable {history : List Moment} {m : Moment} {w : Workload} {task : Nat}

/-- The dialogs that have ended in a login had opened at different generations, all of them before
the present one, and before the one at which an open dialog has opened. -/
theorem wonAt_spec (h : Run history w) :
    (wonAt history).Nodup ∧ Before w.session.generation (wonAt history) ∧
      ∀ d ∈ w.dispatches, d.phase.inDialog = true →
        ∃ opened, openedAt d.errand.task history = some opened ∧
          opened ≤ w.session.generation ∧ Before opened (wonAt history) := by
  induction h with
  | idle site => exact ⟨List.nodup_nil, fun x hx => (nomatch hx), fun d hd => (nomatch hd)⟩
  | @step past m hrun hfresh hstep ih =>
    obtain ⟨hnodup, hbefore, hopen⟩ := ih
    have hkind := (Run.step hrun hfresh hstep).kind
    have hgeneration := hkind.generation
    cases hwins : m.wins? with
    | none =>
      -- a dialog that opens now opens at a generation after all those that were won
      rw [show wonAt (m :: past) = wonAt past by rw [wonAt, hwins]]
      have hle : m.before.session.generation ≤ m.after.session.generation := by omega
      refine ⟨hnodup, hbefore.mono hle, fun c hc hdialog => ?_⟩
      rcases hkind.dialog_cases hc hdialog with hopens | ⟨hquiet, d, hd, htask, hdialog⟩
      · exact ⟨_, openedAt_cons_of_opens hopens, hle, hbefore⟩
      · obtain ⟨opened, he, hopened, hwon⟩ := hopen d hd hdialog
        rw [htask, ← openedAt_cons_of_not_opens hquiet] at he
        exact ⟨opened, he, Nat.le_trans hopened hle, hwon⟩
    | some task =>
      -- the dialog was the only one, and the login moves the generation past it
      rw [show wonAt (m :: past) = openedAt task past :: wonAt past by rw [wonAt, hwins]]
      obtain ⟨d, t, hm, rfl, hdialog, hlogin⟩ := hkind.wins?_eq_some hwins
      obtain ⟨opened, he, hopened, hwon⟩ :=
        hopen d (Workload.mem_of_find? hm.find?_before) hdialog
      rw [hlogin, if_pos rfl] at hgeneration
      have hlt : opened < m.after.session.generation := by omega
      rw [he]
      refine ⟨List.nodup_cons.mpr ⟨hwon.not_mem, hnodup⟩, fun x hx => ?_, fun c hc hdialog => ?_⟩
      · rcases List.mem_cons.mp hx with rfl | hx
        · exact ⟨opened, rfl, hlt⟩
        · exact hwon.mono (Nat.le_of_lt hlt) x hx
      · exact nomatch (hkind.not_inDialog_of_wins hrun.orderly hwins hc).symm.trans hdialog

/-- A task sends the request of the call that it has started with. -/
theorem sends_call (h : Run (m :: history) w) (hsends : m.sends task = true) :
    ∃ x ∈ m :: history, ∃ e, x.signal = .start e ∧ e.task = task ∧
      e.Sends m.before.session m.events := by
  rcases h.kind.sends_cases hsends with ⟨e, hstart, htask, hsent⟩ | ⟨d, hd, htask, hsent, -⟩
  · exact ⟨m, List.mem_cons_self, e, hstart, htask, hsent⟩
  · obtain ⟨x, hx, hstart⟩ := h.before.started hd
    exact ⟨x, List.mem_cons_of_mem _ hx, d.errand, hstart, htask, hsent⟩

/-- Logins are shared, at any moment of any run.

* A dispatch that opens its dialog has sent its request before, and no login has succeeded since
  then. A dispatch that comes to stand inside the turnstile after a login opens no dialog and sends
  its request again, unless the request has no bytes by now.
* Between two requests that a dispatch sends for its call there is a login, and what it sends is the
  request of the call that it has started with.
* The dialogs that have ended in a login had opened at different generations.
* A dispatch sends the request of its call once, and once more for each login while it is live, at
  most. -/
theorem logins_coalesce (h : Run history w) :
    (∀ newer m past, history = newer ++ m :: past → ∀ task,
      (m.opens task = true →
        (∃ r ∈ past, r.sends task = true) ∧ m.logsIn = false ∧
          ∀ x ∈ since task past, x.logsIn = false) ∧
      (m.signal = .proceed task → (∃ x ∈ since task past, x.logsIn = true) →
        m.opens task = false ∧
          (m.sends task = true ∨ ∃ cause, .ended task (.error (.encode cause)) ∈ m.events)) ∧
      (m.sends task = true → (∃ r ∈ past, r.sends task = true) →
        ∃ x ∈ m :: since task past, x.logsIn = true) ∧
      (m.sends task = true → ∃ x ∈ m :: past, ∃ e, x.signal = .start e ∧ e.task = task ∧
        e.Sends m.before.session m.events)) ∧
    ((wonAt history).Nodup ∧ none ∉ wonAt history) ∧
    (∀ task, sendsOf task history ≤ 1 + loginsDuring task history) := by
  obtain ⟨hnodup, hbefore, -⟩ := h.wonAt_spec
  refine ⟨?_, ⟨hnodup, fun hnone => ?_⟩, h.sendsOf_le.1⟩
  · rintro newer m past rfl task
    have hm := h.of_append
    exact ⟨hm.no_login_since, hm.resends_after_login, hm.login_between, hm.sends_call⟩
  · obtain ⟨g, he, -⟩ := hbefore none hnone
    exact nomatch he

/-- Two tasks are asked to log in, and a login out of the dialog of the first one succeeds. -/
def oneLogin : List Signal :=
  twoAsked ++
    [.credentials 0 (some ⟨"me", "secret"⟩), .answer 0 (.ok ⟨200, [0x80]⟩), .proceed 1]

/-- The login serves both. The second task sends its request for the second time, and no more. -/
theorem logins_coalesce_oneLogin :
    ∃ history w, replay? [] {} oneLogin = some (history, w) ∧ Run history w ∧
      w.dispatches.map (·.phase) = [.sending 1, .sending 1] ∧ wonAt history = [some 0] ∧
      sendsOf 1 history = 2 ∧ sendsOf 1 history ≤ 1 + loginsDuring 1 history := by
  have hvalues : (replay? [] {} oneLogin).map (fun (history, w) =>
      (w.dispatches.map (·.phase), wonAt history, sendsOf 1 history)) =
        some ([.sending 1, .sending 1], [some 0], 2) := by
    cbv
  obtain ⟨⟨history, w⟩, hreplay, hvalues⟩ := Option.map_eq_some_iff.mp hvalues
  simp only [Prod.mk.injEq] at hvalues
  have hrun := Run.of_replay? (.idle {}) hreplay
  exact ⟨history, w, hreplay, hrun, hvalues.1, hvalues.2.1, hvalues.2.2,
    (Run.logins_coalesce hrun).2.2 1⟩

end Run

end Courier
