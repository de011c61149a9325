import Courier.Proofs.Session.Withheld

/-!
# `Courier.Proofs.Session.Indicator`: what is shown while requests are in flight

A front end shows that something is going on. The session counts the requests in flight, and tells a
front end to show when the count leaves zero and to hide when it comes back to zero.

The count is right (`Moment.Kind.inFlight`), so the calls turn on and off in turn
(`Run.alternates`), whatever happens to the dispatches in between: only the first and the last one
of a busy time are told of (`Moment.Told`), and a dispatch that waits for its turn, for the operator
or for a second answer is in flight all the time.

The count belongs to the session, though, and the calls go to front ends. The one that is told to
show is that of the dispatch that has come first, and the one that is told to hide is that of the
dispatch that has left last, and these may be different ones. Then the one shows for good, and the
other is told to hide what it does not show.

* `Run.indicator_follows_flight`: the calls of the session as a whole.
* `Run.shown_by_first_hidden_by_last`: the calls of each front end are in order exactly if each busy
  time ends where it has begun.
* `Run.left_showing`: two front ends of one session, one of which is left showing.
-/

set_option autoImplicit false

namespace Courier

/-- What a front end is told: which one, and whether to show or to hide. -/
def Event.loading? : Event → Option (Nat × Bool)
  | .loading front visible => some (front, visible)
  | _ => none

/-- What the front ends are told by some events. -/
def loadingsOf (events : List Event) : List (Nat × Bool) := events.filterMap Event.loading?

/-- What the front ends have been told in a run, in the order in which they were. -/
def loadings (history : List Moment) : List (Nat × Bool) :=
  history.reverse.flatMap fun m => loadingsOf m.events

/-- What one of the front ends is told. -/
def callsTo (front : Nat) (calls : List (Nat × Bool)) : List Bool :=
  calls.filterMap fun call => if call.1 = front then some call.2 else none

/-- Whether the signal drops a dispatch. -/
def Signal.isDrop : Signal → Bool
  | .drop _ => true
  | _ => false

namespace Moment

/-- How many dispatches have begun. -/
def arrivals (m : Moment) : Nat := if m.signal.begins?.isSome then 1 else 0

/-- How many dispatches have ended or been dropped. -/
def departures (m : Moment) : Nat :=
  m.events.countP (·.isEnd) + if m.signal.isDrop then 1 else 0

end Moment

/-! ### Sequences of calls -/

namespace Indicator

/-- Each call changes what is shown, where at first nothing is: the calls show and hide in turn. -/
def Alternates (calls : List Bool) : Prop := (false :: calls).IsChain (· ≠ ·)

/-- Nothing is hidden but what the call before has shown. -/
def HidesShown (calls : List Bool) : Prop :=
  (false :: calls).IsChain fun before now => now = false → before = true

/-- A call that hides goes to the front end to which the call before has gone. -/
def Matched (calls : List (Nat × Bool)) : Prop :=
  calls.IsChain fun before now => now.2 = false → before.1 = now.1

/-- Whether the last call has shown. -/
def isOn (calls : List Bool) : Bool := calls.getLast?.getD false

section
variable {calls : List Bool} {visible : Bool}

/-- An indicator that has not been called is off. -/
@[simp] theorem isOn_nil : isOn [] = false := rfl

/-- The last call decides. -/
@[simp] theorem isOn_concat : isOn (calls ++ [visible]) = visible := by
  simp [isOn]

/-- An indicator is on if its last call has shown it. -/
theorem isOn_iff : isOn calls = true ↔ calls.getLast? = some true := by
  unfold isOn
  cases calls.getLast? <;> simp

/-- One more call is to be compared with the last one, or with nothing being shown. -/
theorem isChain_concat {R : Bool → Bool → Prop} :
    (false :: (calls ++ [visible])).IsChain R ↔
      (false :: calls).IsChain R ∧ R (isOn calls) visible := by
  rw [← List.cons_append, List.isChain_append, List.getLast?_cons]
  simp [isOn]

/-- Calls alternate as long as each one changes the indicator. -/
theorem alternates_concat :
    Alternates (calls ++ [visible]) ↔ Alternates calls ∧ isOn calls ≠ visible :=
  isChain_concat

/-- One more call hides what is shown if the indicator is on, or shows it. -/
theorem hidesShown_concat :
    HidesShown (calls ++ [visible]) ↔ HidesShown calls ∧ (visible = false → isOn calls = true) :=
  isChain_concat

end

section
variable {calls : List (Nat × Bool)} {call : Nat × Bool} {front : Nat}

/-- A hiding call is matched by the call in front of it if that is made to the same front. -/
theorem matched_concat :
    Matched (calls ++ [call]) ↔
      Matched calls ∧ ∀ last ∈ calls.getLast?, call.2 = false → last.1 = call.1 := by
  unfold Matched
  rw [List.isChain_append]
  simp

/-- The calls to one front end with the last call if that is made to this front. -/
@[simp] theorem callsTo_concat :
    callsTo front (calls ++ [call]) =
      callsTo front calls ++ if call.1 = front then [call.2] else [] := by
  unfold callsTo
  rw [List.filterMap_append]
  split <;> simp_all

/-- A call that shows is always in order. -/
theorem forall_hidesShown_concat_true (other : Nat) :
    (∀ front, HidesShown (callsTo front (calls ++ [(other, true)]))) ↔
      ∀ front, HidesShown (callsTo front calls) := by
  refine forall_congr' fun front => ?_
  rw [callsTo_concat]
  split
  · simp [hidesShown_concat]
  · rw [List.append_nil]

/-- A call that hides is in order if its front end shows something. -/
theorem forall_hidesShown_concat_false (other : Nat) :
    (∀ front, HidesShown (callsTo front (calls ++ [(other, false)]))) ↔
      (∀ front, HidesShown (callsTo front calls)) ∧ isOn (callsTo other calls) = true := by
  constructor
  · intro h
    have hother := h other
    rw [callsTo_concat, if_pos rfl, hidesShown_concat] at hother
    refine ⟨fun front => ?_, hother.2 rfl⟩
    by_cases hfront : other = front
    · exact hfront ▸ hother.1
    · have hsame := h front
      rwa [callsTo_concat, if_neg hfront, List.append_nil] at hsame
  · rintro ⟨h, hon⟩ front
    rw [callsTo_concat]
    split
    case isTrue hfront =>
      subst hfront
      exact hidesShown_concat.mpr ⟨h other, fun _ => hon⟩
    case isFalse =>
      rw [List.append_nil]
      exact h front

/-- The calls of each front end are in order exactly if each call that hides goes where the call
before has gone. Then the only front end that shows something is the one that was told so last. -/
theorem hidesShown_iff_matched (h : Alternates (calls.map Prod.snd)) :
    ((∀ front, HidesShown (callsTo front calls)) ↔ Matched calls) ∧
      (Matched calls → ∀ front,
        isOn (callsTo front calls) = true ↔ calls.getLast? = some (front, true)) := by
  induction calls using List.reverseRecOn with
  | nil => exact ⟨⟨fun _ => .nil, fun _ _ => .singleton _⟩, fun _ _ => by simp [callsTo]⟩
  | append_singleton calls call ih =>
    obtain ⟨other, visible⟩ := call
    rw [List.map_append, List.map_singleton, alternates_concat] at h
    obtain ⟨halternates, hchange⟩ := h
    obtain ⟨hiff, hlast⟩ := ih halternates
    rw [matched_concat, List.getLast?_concat]
    cases visible with
    | true =>
      -- nobody has been left showing, and now the one that is told shows
      have hnone : ∀ front, calls.getLast? ≠ some (front, true) := fun front he =>
        hchange (by simp [isOn, he])
      rw [forall_hidesShown_concat_true]
      refine ⟨hiff.trans ⟨fun hm => ⟨hm, nofun⟩, And.left⟩, fun hm front => ?_⟩
      rw [callsTo_concat]
      split
      case isTrue hfront =>
        subst hfront
        simp
      case isFalse hfront =>
        rw [List.append_nil, hlast hm.1 front]
        simp [hnone, hfront]
    | false =>
      obtain ⟨shown, hshown⟩ : ∃ shown, calls.getLast? = some (shown, true) := by
        cases hcase : calls.getLast? with
        | none => exact absurd (by simp [isOn, hcase]) hchange
        | some last => exact ⟨last.1, by simpa [isOn, hcase, Prod.ext_iff] using hchange⟩
      -- if all has been matched, the one that is told to hide shows something if it is that one
      have hon : Matched calls → (isOn (callsTo other calls) = true ↔ shown = other) := fun hm => by
        rw [hlast hm other, hshown]
        simp
      rw [forall_hidesShown_concat_false, hiff]
      refine ⟨?_, fun hm front => ?_⟩
      · simp only [hshown, Option.mem_some_iff, forall_eq', forall_const]
        exact and_congr_right hon
      · -- and then nothing is shown any more
        obtain rfl : shown = other := hm.2 _ hshown rfl
        rw [callsTo_concat]
        split
        case isTrue hfront => simp
        case isFalse hfront =>
          rw [List.append_nil, hlast hm.1 front, hshown]
          simpa using hfront

end

end Indicator

/-! ### What a dispatch does to the count -/

section
variable {s : Session} {e : Errand}

/-- The calls of two stretches of events follow one another. -/
@[simp] theorem loadingsOf_append (before after : List Event) :
    loadingsOf (before ++ after) = loadingsOf before ++ loadingsOf after :=
  List.filterMap_append

/-- What the last dispatch in flight tells its front end when it leaves. -/
def hides (front inFlight : Nat) : List (Nat × Bool) :=
  if inFlight = 1 then [(front, false)] else []

/-- A dispatch that departs hides the indicator if it is the last one. -/
@[simp] theorem loadingsOf_depart : loadingsOf (e.depart s).2 = hides e.front s.inFlight := by
  unfold Errand.depart hides
  split <;> rfl

/-- Departing is not yet the end of a dispatch. -/
@[simp] theorem countP_isEnd_depart : (e.depart s).2.countP (·.isEnd) = 0 := by
  unfold Errand.depart
  split <;> rfl

/-- A stretch in which a dispatch stays in flight, or ends and leaves. -/
inductive Stretch.Flight (e : Errand) (inFlight : Nat) (t : Stretch) : Prop
  | stays (hcount : t.session.inFlight = inFlight) (htold : loadingsOf t.events = [])
      (hends : t.events.countP (·.isEnd) = 0)
  | leaves (hcount : t.session.inFlight = inFlight - 1)
      (htold : loadingsOf t.events = hides e.front inFlight)
      (hends : t.events.countP (·.isEnd) = 1)

/-- Notices in front of a stretch make no difference to what is in flight. -/
theorem Stretch.Flight.after {inFlight : Nat} {t : Stretch} (h : t.Flight e inFlight)
    (notices : List Notice) :
    (t.after (notices.map (.notice e.front e.task ·))).Flight e inFlight := by
  have htold : loadingsOf (notices.map (Event.notice e.front e.task ·)) = [] := by
    simp [loadingsOf, Event.loading?]
  have hends : (notices.map (Event.notice e.front e.task ·)).countP (·.isEnd) = 0 := by
    simp [Event.isEnd]
  cases h with
  | stays hcount hquiet hend =>
    refine .stays hcount ?_ ?_
    · rw [Stretch.events_after, loadingsOf_append, htold, hquiet, List.append_nil]
    · rw [Stretch.events_after, List.countP_append, hends, hend]
  | leaves hcount hhides hend =>
    refine .leaves hcount ?_ ?_
    · rw [Stretch.events_after, loadingsOf_append, htold, hhides, List.nil_append]
    · rw [Stretch.events_after, List.countP_append, hends, hend]

/-- A dispatch that ends leaves, and one that waits on stays in flight. -/
theorem Errand.Makes.flight {t : Stretch} (h : e.Makes s t) : t.Flight e s.inFlight := by
  induction h with
  | finished τ hsite hcount result =>
    have hevents : (e.finish result τ).events =
      (e.depart (τ.mark false)).2 ++ [.ended e.task result] := rfl
    have hbefore : (τ.mark false).inFlight = s.inFlight := hcount
    refine .leaves ?_ ?_ ?_
    · rw [← hcount]
      unfold finish
      dsimp only
      split <;> rfl
    · rw [hevents, loadingsOf_append, loadingsOf_depart, hbefore]
      exact List.append_nil _
    · rw [hevents, List.countP_append, countP_isEnd_depart]
      rfl
  | sent τ hsite hcount request next => exact .stays hcount rfl rfl
  | asked τ hsite hcount lastError next => exact .stays hcount rfl rfl
  | queued τ hsite hcount next => exact .stays hcount rfl rfl
  | noticed notices h ih => exact ih.after notices

/-- A dispatch that runs stays in flight, or it ends and leaves, unless it is dropped. -/
theorem Dispatch.Runs.flight {d : Dispatch} {signal : Signal} {t : Stretch}
    (h : d.Runs s signal t) :
    signal.isDrop = false ∧ t.Flight d.errand s.inFlight ∨
      signal.isDrop = true ∧ t = ⟨(d.drop s).1, (d.drop s).2, none⟩ := by
  obtain ⟨hsignal, hmakes⟩ | ⟨rfl, rfl⟩ := h.makes
  · refine .inl ⟨?_, hmakes.flight⟩
    cases signal with
    | drop task => exact absurd rfl (hsignal task)
    | _ => rfl
  · exact .inr ⟨rfl, rfl⟩

/-- No dispatch begins when one runs. -/
theorem Dispatch.Runs.begins?_signal {d : Dispatch} {signal : Signal} {t : Stretch}
    (h : d.Runs s signal t) : signal.begins? = none := by
  cases h <;> rfl

/-- A dispatch that is dropped leaves like one that ends. -/
theorem Dispatch.flight_drop (d : Dispatch) (s : Session) :
    (d.drop s).1.inFlight = s.inFlight - 1 ∧
      loadingsOf (d.drop s).2 = hides d.errand.front s.inFlight ∧
        (d.drop s).2.countP (·.isEnd) = 0 := by
  obtain ⟨e, armed, phase⟩ := d
  unfold drop
  refine ⟨?_, ?_, countP_isEnd_depart⟩
  · cases phase <;> cases armed <;> rfl
  · rw [loadingsOf_depart]
    cases phase <;> cases armed <;> rfl

end

/-! ### What happens in a moment -/

namespace Moment

variable {m : Moment}

/-- What the front ends are told in a moment: something if a dispatch begins with nobody in flight,
or leaves nobody in flight. -/
inductive Told (m : Moment) : Prop
  | nobody (htold : loadingsOf m.events = [])
      (hcount : m.before.session.inFlight = 0 ↔ m.after.session.inFlight = 0)
      (hnone : m.before.session.inFlight = 0 → ∀ e, m.signal ≠ .start e)
  | first (e : Errand) (hstart : m.signal = .start e)
      (hbefore : m.before.session.inFlight = 0) (hafter : 0 < m.after.session.inFlight)
      (htold : loadingsOf m.events = [(e.front, true)])
  | last (d : Dispatch) (hd : d ∈ m.before.dispatches) (hsignal : m.signal.begins? = none)
      (hbefore : m.before.session.inFlight = 1) (hafter : m.after.session.inFlight = 0)
      (htold : loadingsOf m.events = [(d.errand.front, false)])
  /-- A dispatch has begun alone and ended at once. -/
  | only (e : Errand) (hstart : m.signal = .start e)
      (hbefore : m.before.session.inFlight = 0) (hafter : m.after.session.inFlight = 0)
      (htold : loadingsOf m.events = [(e.front, true), (e.front, false)])

/-- A dispatch that has left has left nobody behind, or somebody. -/
theorem told_of_leaves {d : Dispatch} (hd : d ∈ m.before.dispatches)
    (hsignal : m.signal.begins? = none) (hbefore : 0 < m.before.session.inFlight)
    (hafter : m.after.session.inFlight = m.before.session.inFlight - 1)
    (htold : loadingsOf m.events = hides d.errand.front m.before.session.inFlight) : m.Told := by
  unfold hides at htold
  split at htold
  case isTrue hone => exact .last d hd hsignal hone (by omega) htold
  case isFalse hmore =>
    exact .nobody htold (by omega) fun hnone => absurd hnone (Nat.ne_of_gt hbefore)

/-- A dispatch that begins shows the indicator if it is the first one, and hides it only if it ends
at once. -/
theorem Began.told {e : Errand} (h : m.Began e) : m.Told := by
  obtain ⟨t, hmakes, hstart⟩ := e.makes_start m.before.session
  have hflight : t.Flight e (m.before.session.inFlight + 1) := hmakes.flight
  have hafter : m.after.session.inFlight = t.session.inFlight := by rw [h.session, hstart]; rfl
  have hevents := h.events
  rw [hstart, Stretch.events_after] at hevents
  have htold : loadingsOf m.events =
      (if m.before.session.inFlight = 0 then [(e.front, true)] else []) ++ loadingsOf t.events := by
    rw [hevents, loadingsOf_append]
    split <;> rfl
  -- two questions: whether it is the first one, and whether it has ended at once
  by_cases hfirst : m.before.session.inFlight = 0
  · rw [if_pos hfirst] at htold
    cases hflight with
    | stays hcount hquiet hends =>
      rw [hquiet] at htold
      exact .first e h.signal hfirst (by omega) htold
    | leaves hcount hhides hends =>
      rw [hhides, hfirst] at htold
      exact .only e h.signal hfirst (by omega) htold
  · rw [if_neg hfirst] at htold
    cases hflight with
    | stays hcount hquiet hends =>
      rw [hquiet] at htold
      exact .nobody htold (by omega) (fun hnone => absurd hnone hfirst)
    | leaves hcount hhides hends =>
      rw [hhides, hides, if_neg (by omega)] at htold
      exact .nobody htold (by omega) (fun hnone => absurd hnone hfirst)

/-- Whatever happens, the front ends are told of it only if it is the first or the last thing. -/
theorem Kind.told (h : m.Kind) (horderly : Orderly m.before.session m.before.dispatches) :
    m.Told := by
  cases h with
  | began e hm => exact hm.told
  | ran d t hm =>
    have hd := Workload.mem_of_find? hm.find?_before
    have hbefore : 0 < m.before.session.inFlight := by
      rw [horderly.inFlight]
      exact List.length_pos_of_mem hd
    have hcount : m.after.session.inFlight = t.session.inFlight := by rw [hm.session]
    -- the dispatch stays, or it leaves at its end or by being dropped
    obtain ⟨-, hflight⟩ | ⟨-, rfl⟩ := hm.runs.flight
    · cases hflight with
      | stays hsame hquiet hends =>
        rw [← hm.events] at hquiet
        exact .nobody hquiet (by omega) fun hnone => absurd hnone (Nat.ne_of_gt hbefore)
      | leaves hless hhides hends =>
        rw [← hm.events] at hhides
        exact told_of_leaves hd hm.runs.begins?_signal hbefore (hcount.trans hless) hhides
    · obtain ⟨hless, hhides, -⟩ := d.flight_drop m.before.session
      exact told_of_leaves hd hm.runs.begins?_signal hbefore (hcount.trans hless)
        (by rw [hm.events, hhides])
  | switched site hm =>
    refine .nobody ?_ ?_ fun _ e he => nomatch hm.signal.symm.trans he
    · rw [hm.events]
      rfl
    · rw [hm.after]

/-- The count goes up with each dispatch that begins and down with each one that leaves, and it does
not have to stop at zero. -/
theorem Kind.inFlight (h : m.Kind) (horderly : Orderly m.before.session m.before.dispatches) :
    m.after.session.inFlight + m.departures = m.before.session.inFlight + m.arrivals := by
  unfold departures arrivals
  cases h with
  | began e hm =>
    obtain ⟨t, hmakes, hstart⟩ := e.makes_start m.before.session
    have hflight : t.Flight e (m.before.session.inFlight + 1) := hmakes.flight
    have hafter : m.after.session.inFlight = t.session.inFlight := by rw [hm.session, hstart]; rfl
    have hends : m.events.countP (·.isEnd) = t.events.countP (·.isEnd) := by
      rw [hm.events, hstart, Stretch.events_after, List.countP_append]
      split <;> exact Nat.zero_add _
    rw [hm.signal, hafter, hends]
    simp only [Signal.isDrop, Signal.begins?, Option.isSome_some, if_true, Bool.false_eq_true,
      if_false]
    cases hflight <;> omega
  | ran d t hm =>
    -- the dispatch that runs is counted itself, so the count can go down
    have hbefore : 0 < m.before.session.inFlight := by
      rw [horderly.inFlight]
      exact List.length_pos_of_mem (Workload.mem_of_find? hm.find?_before)
    have hafter : m.after.session.inFlight = t.session.inFlight := by rw [hm.session]
    have hends : m.events.countP (·.isEnd) = t.events.countP (·.isEnd) := by rw [hm.events]
    rw [hafter, hends, hm.runs.begins?_signal]
    obtain ⟨hsignal, hflight⟩ | ⟨hsignal, rfl⟩ := hm.runs.flight
    · rw [hsignal]
      simp only [Option.isSome_none, Bool.false_eq_true, if_false]
      cases hflight <;> omega
    · obtain ⟨hless, -, hnone⟩ := d.flight_drop m.before.session
      rw [hsignal]
      simp only [Option.isSome_none, Bool.false_eq_true, if_false, if_true]
      omega
  | switched site hm =>
    rw [hm.signal, hm.events, hm.after]
    rfl

end Moment

/-! ### What happens in a run -/

open Indicator

/-- The calls of a moment come behind those of its past. -/
@[simp] theorem loadings_cons (m : Moment) (past : List Moment) :
    loadings (m :: past) = loadings past ++ loadingsOf m.events := by
  simp [loadings]

namespace Run

variable {history : List Moment} {w : Workload}

/-- What is shown of the session as a whole changes with each call, and it is that something is
going on exactly while something is. -/
theorem alternates (h : Run history w) :
    Alternates ((loadings history).map Prod.snd) ∧
      isOn ((loadings history).map Prod.snd) = decide (0 < w.session.inFlight) := by
  induction h with
  | idle site => exact ⟨.singleton _, rfl⟩
  | @step past m hrun hfresh hstep ih =>
    obtain ⟨halternates, hon⟩ := ih
    rw [loadings_cons, List.map_append]
    -- the last thing shown is what the count was before, so the next call is the other one
    cases (Run.step hrun hfresh hstep).kind.told hrun.orderly with
    | nobody htold hcount hnone =>
      rw [htold, List.map_nil, List.append_nil, hon, decide_eq_decide]
      exact ⟨halternates, by omega⟩
    | first e hstart hbefore hafter htold =>
      rw [hbefore] at hon
      rw [htold, List.map_singleton, alternates_concat, isOn_concat, hon, decide_eq_true hafter]
      exact ⟨⟨halternates, nofun⟩, rfl⟩
    | last d hd hsignal hbefore hafter htold =>
      rw [hbefore] at hon
      rw [htold, List.map_singleton, alternates_concat, isOn_concat, hon, hafter]
      exact ⟨⟨halternates, nofun⟩, rfl⟩
    | only e hstart hbefore hafter htold =>
      rw [hbefore] at hon
      rw [htold, List.map_cons, List.map_singleton, List.append_cons, alternates_concat,
        alternates_concat, isOn_concat, isOn_concat, hon, hafter]
      exact ⟨⟨⟨halternates, nofun⟩, nofun⟩, rfl⟩

/-- A dispatch that lives on is in flight before and after, so nobody is told anything. -/
theorem quiet_of_isLive {past : List Moment} {m : Moment} {task : Nat} (h : Run (m :: past) w)
    (hlive : m.isLive task = true) : loadingsOf m.events = [] := by
  simp only [Moment.isLive, Bool.and_eq_true, Option.isSome_iff_exists] at hlive
  obtain ⟨⟨d, hd⟩, ⟨d', hd'⟩⟩ := hlive
  have horderly := h.orderly
  rw [h.eq_after] at horderly
  have hbefore := List.length_pos_of_mem (Workload.mem_of_find? hd)
  have hafter := List.length_pos_of_mem (Workload.mem_of_find? hd')
  rw [← h.before.orderly.inFlight] at hbefore
  rw [← horderly.inFlight] at hafter
  cases h.kind.told h.before.orderly with
  | nobody htold hcount hnone => exact htold
  | first e hstart hnone => exact absurd hbefore (by omega)
  | last d hd hsignal hone hnone => exact absurd hafter (by omega)
  | only e hstart hnone => exact absurd hbefore (by omega)

/-- The indicator of the session as a whole, at any point of any run.

As many requests are in flight as there are live dispatches. The count goes up by one with each
dispatch that begins and down by one with each one that ends or is dropped. The calls show and hide
in turn, beginning with showing, and the last one shows exactly while something is in flight. In a
moment that a dispatch lives through, whatever happens to it or to others, there is no call. -/
theorem indicator_follows_flight (h : Run history w) :
    w.session.inFlight = w.dispatches.length ∧
    (∀ m ∈ history,
      m.after.session.inFlight + m.departures = m.before.session.inFlight + m.arrivals) ∧
    Alternates ((loadings history).map Prod.snd) ∧
    (((loadings history).map Prod.snd).getLast? = some true ↔ 0 < w.session.inFlight) ∧
    (∀ m ∈ history, ∀ task, m.isLive task = true → loadingsOf m.events = []) := by
  obtain ⟨halternates, hon⟩ := h.alternates
  refine ⟨h.orderly.inFlight, fun m hm => ?_, halternates, ?_, fun m hm task hlive => ?_⟩
  · obtain ⟨past, hnow⟩ := h.exists_of_mem hm
    exact hnow.kind.inFlight hnow.before.orderly
  · rw [← isOn_iff, hon, decide_eq_true_iff]
  · obtain ⟨past, hnow⟩ := h.exists_of_mem hm
    exact hnow.quiet_of_isLive hlive

/-- Of two tasks that are asked to log in, the one in its dialog is dropped, and the other one gives
up. -/
def twoGone : List Signal := twoAsked ++ [.drop 0, .proceed 1, .credentials 1 none]

/-- In all of this the front end is told to show once, and to hide once. -/
theorem indicator_follows_flight_twoGone :
    ∃ history w, replay? [] {} twoGone = some (history, w) ∧ Run history w ∧
      loadings history = [(0, true), (0, false)] ∧ w.session.inFlight = 0 ∧
      Alternates ((loadings history).map Prod.snd) ∧ w.dispatches.length = 0 := by
  have hvalues : (replay? [] {} twoGone).map (fun (history, w) =>
      (loadings history, w.session.inFlight)) = some ([(0, true), (0, false)], 0) := by
    cbv
  obtain ⟨⟨history, w⟩, hreplay, hvalues⟩ := Option.map_eq_some_iff.mp hvalues
  obtain ⟨hcalls, hnone⟩ := Prod.mk.inj hvalues
  have hrun := Run.of_replay? (.idle {}) hreplay
  obtain ⟨hcount, -, halternates, -⟩ := Run.indicator_follows_flight hrun
  exact ⟨history, w, hreplay, hrun, hcalls, hnone, halternates, hcount.symm.trans hnone⟩

end Run

/-! ### Which front end is told -/

/-- Whether a call is in flight at some time of a moment. -/
def Moment.Involves (m : Moment) (e : Errand) : Prop :=
  m.signal = .start e ∨ ∃ d ∈ m.before.dispatches, d.errand = e

namespace Moment

variable {m : Moment} {front : Nat}

/-- The front end that is told to show is that of a dispatch that comes to an empty session. -/
theorem Told.shows_iff (h : m.Told) (horderly : Orderly m.before.session m.before.dispatches) :
    (front, true) ∈ loadingsOf m.events ↔
      m.before.dispatches = [] ∧ ∃ e, m.signal = .start e ∧ e.front = front := by
  rw [← List.length_eq_zero_iff, ← horderly.inFlight]
  cases h with
  | nobody htold hcount hnone =>
    rw [htold]
    exact ⟨nofun, fun ⟨hempty, e, hstart, _⟩ => absurd hstart (hnone hempty e)⟩
  | first e hstart hbefore hafter htold =>
    rw [htold, hstart]
    simp [hbefore, eq_comm]
  | last d hd hsignal hbefore hafter htold =>
    rw [htold]
    simp [hbefore]
  | only e hstart hbefore hafter htold =>
    rw [htold, hstart]
    simp [hbefore, eq_comm]

/-- The front end that is told to hide is that of a dispatch that leaves an empty session. -/
theorem Told.hides_iff (h : m.Told) (horderly : Orderly m.before.session m.before.dispatches)
    (hafter : m.after.session.inFlight = m.after.dispatches.length) :
    (front, false) ∈ loadingsOf m.events ↔
      m.after.dispatches = [] ∧ ∃ e, m.Involves e ∧ e.front = front := by
  rw [← List.length_eq_zero_iff, ← hafter]
  have hlength := horderly.inFlight
  cases h with
  | nobody htold hcount hnone =>
    rw [htold]
    refine ⟨nofun, ?_⟩
    rintro ⟨hempty, e, hstart | ⟨d, hd, -⟩, -⟩
    · exact absurd hstart (hnone (hcount.mpr hempty) e)
    · have hpos := List.length_pos_of_mem hd
      omega
  | first e hstart hbefore hafter htold =>
    rw [htold]
    simp [Nat.ne_of_gt hafter]
  | last d hd hsignal hbefore hafter htold =>
    -- the dispatch that leaves is the only one
    obtain ⟨only, honly⟩ := List.length_eq_one_iff.mp (hlength.symm.trans hbefore)
    obtain rfl : d = only := by simpa [honly] using hd
    have hinvolves : ∀ e, m.Involves e ↔ d.errand = e := by
      refine fun e => ⟨?_, fun he => .inr ⟨d, hd, he⟩⟩
      rintro (hstart | ⟨c, hc, he⟩)
      · rw [hstart] at hsignal
        exact nomatch hsignal
      · rw [honly, List.mem_singleton] at hc
        rw [← he, hc]
    rw [htold]
    simp [hafter, hinvolves, eq_comm]
  | only e hstart hbefore hafter htold =>
    have hnone : m.before.dispatches = [] := List.length_eq_zero_iff.mp (hlength.symm.trans hbefore)
    rw [htold]
    simp [Involves, hnone, hstart, hafter, eq_comm]

/-- Whoever is told something has a dispatch in flight. -/
theorem Told.involves {call : Nat × Bool} (h : m.Told) (hcall : call ∈ loadingsOf m.events) :
    ∃ e, m.Involves e ∧ e.front = call.1 := by
  cases h with
  | nobody htold =>
    rw [htold] at hcall
    exact nomatch hcall
  | first e hstart hbefore hafter htold =>
    rw [htold, List.mem_singleton] at hcall
    exact ⟨e, .inl hstart, by rw [hcall]⟩
  | last d hd hsignal hbefore hafter htold =>
    rw [htold, List.mem_singleton] at hcall
    exact ⟨d.errand, .inr ⟨d, hd, rfl⟩, by rw [hcall]⟩
  | only e hstart hbefore hafter htold =>
    simp only [htold, List.mem_cons, List.not_mem_nil, or_false] at hcall
    exact ⟨e, .inl hstart, by rcases hcall with rfl | rfl <;> rfl⟩

end Moment

namespace Run

variable {history past : List Moment} {m : Moment} {w : Workload}

/-- So every moment of a run tells the front ends what it has to. -/
theorem told (h : Run (m :: past) w) : m.Told := h.kind.told h.before.orderly

/-- A call that is in flight has been started. -/
theorem started_of_involves {e : Errand} (h : Run (m :: past) w) (he : m.Involves e) :
    ∃ x ∈ m :: past, x.signal = .start e := by
  obtain hstart | ⟨d, hd, rfl⟩ := he
  · exact ⟨m, List.mem_cons_self, hstart⟩
  · obtain ⟨x, hx, hstart⟩ := h.before.started hd
    exact ⟨x, List.mem_cons_of_mem _ hx, hstart⟩

/-- Whoever has been told something has started a call. -/
theorem started_of_mem_loadings {call : Nat × Bool} (h : Run history w)
    (hcall : call ∈ loadings history) :
    ∃ x ∈ history, ∃ e, x.signal = .start e ∧ e.front = call.1 := by
  induction h with
  | idle site => exact nomatch hcall
  | @step past m hrun hfresh hstep ih =>
    rw [loadings_cons, List.mem_append] at hcall
    rcases hcall with hcall | hcall
    · obtain ⟨x, hx, hfront⟩ := ih hcall
      exact ⟨x, List.mem_cons_of_mem _ hx, hfront⟩
    · have hnow := Run.step hrun hfresh hstep
      obtain ⟨e, he, hfront⟩ := hnow.told.involves hcall
      obtain ⟨x, hx, hstart⟩ := hnow.started_of_involves he
      exact ⟨x, hx, e, hstart, hfront⟩

/-- With one front end all calls go where the call before has gone. -/
theorem matched_of_same_front (h : Run history w)
    (hsame : ∀ x ∈ history, ∀ y ∈ history, ∀ e e', x.signal = .start e → y.signal = .start e' →
      e.front = e'.front) : Matched (loadings history) := by
  refine (List.pairwise_of_forall_mem_list fun call hcall call' hcall' _ => ?_).isChain
  obtain ⟨x, hx, e, hstart, hfront⟩ := h.started_of_mem_loadings hcall
  obtain ⟨y, hy, e', hstart', hfront'⟩ := h.started_of_mem_loadings hcall'
  rw [← hfront, ← hfront', hsame x hx y hy e e' hstart hstart']

/-- The indicators of the front ends that share a session, at any point of any run.

The front end of the first dispatch in flight is told to show, and the front end of the last one is
told to hide. So the calls of each front end are in order exactly if those two are always the same,
and then nothing is shown any more when all dispatches are gone. It is so if all dispatches act for
one front end. -/
theorem shown_by_first_hidden_by_last (h : Run history w) :
    (∀ m ∈ history, ∀ front,
      ((front, true) ∈ loadingsOf m.events ↔
        m.before.dispatches = [] ∧ ∃ e, m.signal = .start e ∧ e.front = front) ∧
      ((front, false) ∈ loadingsOf m.events ↔
        m.after.dispatches = [] ∧ ∃ e, m.Involves e ∧ e.front = front)) ∧
    ((∀ front, HidesShown (callsTo front (loadings history))) ↔ Matched (loadings history)) ∧
    (Matched (loadings history) → w.dispatches = [] →
      ∀ front, (callsTo front (loadings history)).getLast? ≠ some true) ∧
    ((∀ x ∈ history, ∀ y ∈ history, ∀ e e', x.signal = .start e → y.signal = .start e' →
      e.front = e'.front) → Matched (loadings history)) := by
  obtain ⟨halternates, hon⟩ := h.alternates
  obtain ⟨hiff, hlast⟩ := hidesShown_iff_matched halternates
  refine ⟨fun m hm front => ?_, hiff, fun hmatched hgone front hshown => ?_,
    h.matched_of_same_front⟩
  · obtain ⟨past, hnow⟩ := h.exists_of_mem hm
    exact ⟨hnow.told.shows_iff hnow.before.orderly,
      hnow.told.hides_iff hnow.before.orderly hnow.orderly.inFlight⟩
  · -- the last call of all has hidden, so it is not one that has shown
    rw [h.orderly.inFlight, hgone, List.length_nil] at hon
    rw [← isOn_iff, hlast hmatched front] at hshown
    simp [isOn, hshown] at hon

/-- Two tasks read lists, each for a front end of its own or both for one, and both get them. -/
def twoRead (front other : Nat) : List Signal :=
  [.start { Errand.reading 0 with front := front }, .start { Errand.reading 1 with front := other },
    .answer 0 (.ok ⟨200, [0x80]⟩), .answer 1 (.ok ⟨200, [0x80]⟩)]

/-- One front end for both hides what it has shown. -/
theorem shown_by_first_hidden_by_last_one_front :
    ∃ history w, replay? [] {} (twoRead 0 0) = some (history, w) ∧ Run history w ∧
      w.dispatches = [] ∧ callsTo 0 (loadings history) = [true, false] ∧
      (∀ front, HidesShown (callsTo front (loadings history))) ∧
      ∀ front, (callsTo front (loadings history)).getLast? ≠ some true := by
  have hvalues : (replay? [] {} (twoRead 0 0)).map (fun (history, w) =>
      (loadings history, w.dispatches.length)) = some ([(0, true), (0, false)], 0) := by
    cbv
  obtain ⟨⟨history, w⟩, hreplay, hvalues⟩ := Option.map_eq_some_iff.mp hvalues
  obtain ⟨hcalls, hgone⟩ := Prod.mk.inj hvalues
  have hrun := Run.of_replay? (.idle {}) hreplay
  obtain ⟨-, hiff, hrest, -⟩ := Run.shown_by_first_hidden_by_last hrun
  have hmatched : Matched (loadings history) := by
    rw [hcalls]
    exact .cons_cons (fun _ => rfl) (.singleton _)
  have hempty : w.dispatches = [] := List.length_eq_zero_iff.mp hgone
  exact ⟨history, w, hreplay, hrun, hempty, by rw [hcalls]; rfl, hiff.mpr hmatched,
    hrest hmatched hempty⟩

/-- Of two front ends, the first is left showing when all dispatches are gone, and the second is
told to hide what it has never shown. -/
theorem left_showing :
    ∃ history w, replay? [] {} (twoRead 0 1) = some (history, w) ∧ Run history w ∧
      w.dispatches = [] ∧ (callsTo 0 (loadings history)).getLast? = some true ∧
      ¬ HidesShown (callsTo 1 (loadings history)) := by
  have hvalues : (replay? [] {} (twoRead 0 1)).map (fun (history, w) =>
      (loadings history, w.dispatches.length)) = some ([(0, true), (1, false)], 0) := by
    cbv
  obtain ⟨⟨history, w⟩, hreplay, hvalues⟩ := Option.map_eq_some_iff.mp hvalues
  obtain ⟨hcalls, hgone⟩ := Prod.mk.inj hvalues
  have hrun := Run.of_replay? (.idle {}) hreplay
  refine ⟨history, w, hreplay, hrun, List.length_eq_zero_iff.mp hgone, by rw [hcalls]; rfl, ?_⟩
  rw [hcalls]
  unfold HidesShown
  decide

end Run

end Courier
