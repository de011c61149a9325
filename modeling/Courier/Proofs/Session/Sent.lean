import Courier.Proofs.Session.Resend

/-!
# `Courier.Proofs.Session.Sent`: who makes the requests of a run

A dispatch sends a request when it begins, when somebody has logged in, and when the operator has
entered credentials into its dialog. The call differs, for a login out of a dialog is a call of its
own, but the API and the codec are those of the dispatcher each time.

So whatever is true of every request that a dispatcher can make is true of every request that is
sent in a run (`Run.canSend_of_sent`). The cases are those of what a waiting dispatch does.
-/

set_option autoImplicit false

namespace Courier

namespace Errand

/-- Whether the dispatcher of an errand makes a request, for some call and on behalf of some
site. -/
def CanSend (e : Errand) (r : Http.Request) : Prop :=
  ∃ site? call, e.dispatcher.api.request e.dispatcher.codec site? call = .ok r

/-- Whether the dispatcher of an errand makes all requests among some events. -/
def SendsAll (e : Errand) (events : List Event) : Prop :=
  ∀ task, ∀ r ∈ requestsOf task events, e.CanSend r

section
variable {e : Errand} {s : Session} {t : Stretch} {events : List Event}

/-- Events without requests hold none that the dispatcher has not made. -/
theorem sendsAll_of_quiet (h : ∀ task, requestsOf task events = []) : e.SendsAll events := by
  intro task r hr
  rw [h task] at hr
  exact nomatch hr

/-- A request that a dispatcher makes may be sent. -/
theorem sendsAll_sent {r : Http.Request} (h : e.CanSend r) : e.SendsAll [.sent e.task r] := by
  intro task other hother
  obtain ⟨event, hevent, hrequest⟩ := List.mem_filterMap.mp hother
  obtain rfl := List.mem_singleton.mp hevent
  have hthis : (if e.task = task then some r else none) = some other := hrequest
  by_cases htask : e.task = task
  · rw [if_pos htask] at hthis
    cases hthis
    exact h
  · rw [if_neg htask] at hthis
    exact nomatch hthis

/-- Such events in front of a stretch make no difference. -/
theorem sendsAll_after (hquiet : ∀ task, requestsOf task events = [])
    (h : e.SendsAll t.events) : e.SendsAll (t.after events).events := by
  intro task r hr
  rw [Stretch.events_after, requestsOf_append, hquiet, List.nil_append] at hr
  exact h task r hr

/-- A dispatch that ends sends nothing. -/
theorem sendsAll_finish (result : Except CallError Value) (s : Session) :
    e.SendsAll (e.finish result s).events :=
  sendsAll_of_quiet fun _ => requestsOf_finish result

/-- One that sends has made its request from the call. -/
theorem sendsAll_send (armed : Bool) (s : Session) : e.SendsAll (e.send armed s).events := by
  unfold send
  split
  · exact sendsAll_finish _ s
  · rename_i r hr
    exact sendsAll_sent ⟨_, _, hr⟩

/-- One that asks for a login sends nothing yet. -/
theorem sendsAll_ask (lastError : Option String) (s : Session) :
    e.SendsAll (e.ask lastError s).events := by
  unfold ask
  split
  · exact sendsAll_of_quiet fun _ => rfl
  · exact sendsAll_finish _ _

/-- One that is let in asks or sends. -/
theorem sendsAll_admitted (seen : Nat) (s : Session) : e.SendsAll (e.admitted seen s).events := by
  unfold admitted
  split
  · exact sendsAll_ask none _
  · exact sendsAll_send true _

/-- One that begins sends. -/
theorem sendsAll_start (e : Errand) (s : Session) : e.SendsAll (e.start s).events :=
  sendsAll_after (fun _ => requestsOf_shown) (sendsAll_send _ _)

end

end Errand

/-- Whatever a waiting dispatch does, its dispatcher makes what it sends. -/
theorem Dispatch.Runs.sendsAll {d : Dispatch} {s : Session} {signal : Signal} {t : Stretch}
    (h : d.Runs s signal t) : d.errand.SendsAll t.events := by
  cases h with
  | received e armed seen outcome =>
    unfold Errand.receive
    split
    · unfold Errand.requireLogin
      dsimp only
      split
      · exact Errand.sendsAll_admitted seen _
      · exact Errand.sendsAll_of_quiet fun _ => rfl
    · exact Errand.sendsAll_after (fun _ => requestsOf_notices _ _ _)
        (Errand.sendsAll_finish _ s)
  | loggedIn e armed outcome =>
    unfold Errand.loggedIn
    split
    · exact Errand.sendsAll_ask _ s
    · refine Errand.sendsAll_after (fun _ => requestsOf_notices _ _ _) ?_
      split
      · exact Errand.sendsAll_send true _
      · exact Errand.sendsAll_ask _ _
  | answered e armed entered =>
    unfold Errand.answered
    split
    · exact Errand.sendsAll_finish _ _
    · dsimp only
      split
      · exact Errand.sendsAll_ask _ _
      · -- the login is a call that the operator has made, to the same API
        rename_i r hr
        exact Errand.sendsAll_sent ⟨_, _, hr⟩
  | admitted e armed seen hinside => exact Errand.sendsAll_admitted seen s
  | dropped => exact Errand.sendsAll_of_quiet fun _ => requestsOf_depart

/-- A request that is sent in a run is made by the dispatcher of a task that has started in it. -/
theorem Run.canSend_of_sent {history : List Moment} {m : Moment} {w : Workload} {task : Nat}
    {r : Http.Request} (h : Run history w) (hm : m ∈ history) (hsent : .sent task r ∈ m.events) :
    ∃ x ∈ history, ∃ e, x.signal = .start e ∧ e.CanSend r := by
  obtain ⟨newer, past, rfl⟩ := List.append_of_mem hm
  have hrun : Run (m :: past) m.after := h.of_append
  have hrequest := mem_requestsOf hsent
  cases hrun.kind with
  | began e hbegan =>
    rw [hbegan.events] at hrequest
    exact ⟨m, hm, e, hbegan.signal, e.sendsAll_start _ task r hrequest⟩
  | ran d t hran =>
    rw [hran.events] at hrequest
    obtain ⟨x, hx, hstart⟩ := hrun.before.started (Workload.mem_of_find? hran.find?_before)
    exact ⟨x, List.mem_append_right _ (List.mem_cons_of_mem _ hx), d.errand, hstart,
      hran.runs.sendsAll task r hrequest⟩
  | switched site hswitched =>
    rw [hswitched.events] at hrequest
    exact nomatch hrequest

end Courier
