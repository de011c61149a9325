import Courier.Proofs.Api.Outgoing
import Courier.Proofs.Session.Coalescing

/-!
# `Courier.Proofs.Session.Resend`: what is sent again after a login

A dispatch keeps its call as it is, and after a login it sends the request of its call again. But it
does not keep the request. It makes it anew each time, on behalf of the site that is active by then,
and while it waits at the turnstile or for the operator, the site can be switched.

So what a dispatch sends is at any time the request of its call on behalf of the site of that time,
and nothing else (`Run.requestsOf_eq`). Two such requests have the same frame, and they are equal if
the site was the same, which it was if nobody has switched it in between (`Run.site_eq`), or if the
payload does not name a site.

* `Run.resent_for_site`: this, for any two requests that a dispatch sends for its call.
* `Run.resent_elsewhere`: they differ if the site has been switched, and a call that was to write to
  one site writes to another one.
-/

set_option autoImplicit false

namespace Courier

/-- Whether the signal switches the site. -/
def Signal.isSwitch : Signal → Bool
  | .switch _ => true
  | _ => false

/-- The request that a task sends, if this event is that it does. -/
def Event.request? (task : Nat) : Event → Option Http.Request
  | .sent t request => if t = task then some request else none
  | _ => none

/-- The requests that a task sends. -/
def requestsOf (task : Nat) (events : List Event) : List Http.Request :=
  events.filterMap (·.request? task)

/-- The requests that a task has sent for its call, the last one first. -/
def requestsFor (task : Nat) (history : List Moment) : List Http.Request :=
  history.flatMap fun m => if m.sends task then requestsOf task m.events else []

/-! ### One request at a time -/

section
variable {s : Session} {e : Errand} {task : Nat}

/-- The requests of two stretches of events follow one another. -/
@[simp] theorem requestsOf_append (before after : List Event) :
    requestsOf task (before ++ after) = requestsOf task before ++ requestsOf task after :=
  List.filterMap_append

/-- Notices are no requests. -/
@[simp] theorem requestsOf_notices (front other : Nat) (notices : List Notice) :
    requestsOf task (notices.map (.notice front other ·)) = [] := by
  simp [requestsOf, Event.request?]

/-- To show that something is going on is not to send anything. -/
@[simp] theorem requestsOf_shown :
    requestsOf task (if s.inFlight = 0 then [Event.loading e.front true] else []) = [] := by
  split <;> rfl

/-- A request that is sent is one of those of its task. -/
theorem mem_requestsOf {request : Http.Request} {events : List Event}
    (h : .sent task request ∈ events) : request ∈ requestsOf task events :=
  List.mem_filterMap.mpr ⟨_, h, if_pos rfl⟩

/-- Departing sends nothing. -/
@[simp] theorem requestsOf_depart : requestsOf task (e.depart s).2 = [] := by
  unfold Errand.depart
  split <;> rfl

/-- A dispatch that ends sends nothing. -/
@[simp] theorem requestsOf_finish (result : Except CallError Value) :
    requestsOf task (e.finish result s).events = [] := by
  show requestsOf task ((e.depart (s.mark false)).2 ++ [.ended e.task result]) = []
  rw [requestsOf_append, requestsOf_depart]
  rfl

/-- Between two points at which it waits, a dispatch sends one request at most. -/
theorem Errand.Makes.length_requestsOf {t : Stretch} (h : e.Makes s t) :
    (requestsOf task t.events).length ≤ 1 := by
  induction h with
  | finished τ hsite hcount result => simp
  | sent τ hsite hcount request next => exact List.length_filterMap_le _ _
  | asked τ hsite hcount lastError next => exact Nat.zero_le 1
  | queued τ hsite hcount next => exact Nat.zero_le 1
  | noticed notices h ih => simpa using ih

/-- A dispatch sends one request at most when it begins. -/
theorem Errand.length_requestsOf_start (e : Errand) (s : Session) :
    (requestsOf task (e.start s).events).length ≤ 1 := by
  obtain ⟨t, hmakes, hstart⟩ := e.makes_start s
  rw [hstart, Stretch.events_after, requestsOf_append, requestsOf_shown, List.nil_append]
  exact hmakes.length_requestsOf

/-- And one at most each time that it runs. -/
theorem Dispatch.Runs.length_requestsOf {d : Dispatch} {signal : Signal} {t : Stretch}
    (h : d.Runs s signal t) : (requestsOf task t.events).length ≤ 1 := by
  obtain ⟨-, hmakes⟩ | ⟨-, rfl⟩ := h.makes
  · exact hmakes.length_requestsOf
  · rw [show requestsOf task (d.drop s).2 = [] from requestsOf_depart]
    exact Nat.zero_le 1

end

/-! ### The site -/

section
variable {s : Session} {e : Errand}

/-- What a dispatch does leaves the active site as it is. -/
theorem Errand.Makes.site {t : Stretch} (h : e.Makes s t) : t.session.site = s.site := by
  induction h with
  | finished τ hsite hcount result =>
    unfold finish
    dsimp only
    split
    · exact hsite
    · exact hsite
  | sent τ hsite hcount request next => exact hsite
  | asked τ hsite hcount lastError next => exact hsite
  | queued τ hsite hcount next => exact hsite
  | noticed notices h ih => exact ih

/-- Beginning a dispatch does, too. -/
theorem Errand.site_start (e : Errand) (s : Session) : (e.start s).session.site = s.site := by
  obtain ⟨t, hmakes, hstart⟩ := e.makes_start s
  rw [hstart, Stretch.session_after, hmakes.site]

/-- No dispatch switches the site. -/
theorem Dispatch.Runs.site {d : Dispatch} {signal : Signal} {t : Stretch}
    (h : d.Runs s signal t) : t.session.site = s.site := by
  obtain ⟨-, hmakes⟩ | ⟨-, rfl⟩ := h.makes
  · exact hmakes.site
  · -- what a dropped dispatch gives back leaves the site as it is
    obtain ⟨e, armed, phase⟩ := d
    unfold drop
    cases phase <;> cases armed <;> rfl

end

namespace Moment

variable {m : Moment} {task : Nat}

/-- The site stays as it is, unless somebody switches it. -/
theorem Kind.site (h : m.Kind) (hstays : m.signal.isSwitch = false) :
    m.after.session.site = m.before.session.site := by
  cases h with
  | began e hm =>
    rw [hm.session]
    exact e.site_start _
  | ran d t hm =>
    rw [hm.session]
    exact hm.runs.site
  | switched site hm =>
    rw [hm.signal] at hstays
    exact nomatch hstays

/-- In one moment a task sends one request at most. -/
theorem Kind.length_requestsOf (h : m.Kind) : (requestsOf task m.events).length ≤ 1 := by
  cases h with
  | began e hm =>
    rw [hm.events]
    exact e.length_requestsOf_start _
  | ran d t hm =>
    rw [hm.events]
    exact hm.runs.length_requestsOf
  | switched site hm =>
    rw [hm.events]
    exact Nat.zero_le 1

end Moment

/-! ### The requests of a run -/

/-- A call that writes a page. -/
def Errand.writing (task : Nat) : Errand where
  task := task
  front := 0
  dispatcher := {}
  call := { method := .post, endpoint := "pages", payload? := some (.map []) }

/-- The request that writes a page of the site with this id. -/
def pageRequest (id : UInt8) : Http.Request where
  method := .post
  url := "http://localhost:8080/api/pages"
  headers := [("Cache-Control", "no-store"), ("Content-Type", "application/x-msgpack")]
  body? := some [0x81, 0xa4, 0x73, 0x69, 0x74, 0x65, id]

/-- The operator of site 1 writes a page, and is asked to log in. The login succeeds, after some
other things have happened or none. -/
def writingOnceLoggedIn (meanwhile : List Signal) : List Signal :=
  [.start (.writing 0), .answer 0 (.ok ⟨403, []⟩)] ++ meanwhile ++
    [.credentials 0 (some ⟨"me", "secret"⟩), .answer 0 (.ok ⟨200, [0x80]⟩)]

namespace Run

variable {history between past newer : List Moment} {m m' : Moment} {w : Workload} {task : Nat}

/-- The site stays as it is for as long as nobody switches it. -/
theorem site_eq (h : Run (between ++ m :: past) w)
    (hstays : ∀ x ∈ m :: between, x.signal.isSwitch = false) :
    w.session.site = m.before.session.site := by
  induction between generalizing w with
  | nil =>
    rw [h.eq_after]
    exact h.kind.site (hstays m List.mem_cons_self)
  | cons x between ih =>
    simp only [List.forall_mem_cons] at hstays ih
    obtain ⟨hm, hx, hbetween⟩ := hstays
    rw [h.eq_after, h.kind.site hx, ih h.before ⟨hm, hbetween⟩]

/-- When a dispatch sends something for its call, it sends the request of its call on behalf of the
site that is active, and nothing else. -/
theorem requestsOf_eq (h : Run (m :: past) w) (hsends : m.sends task = true) :
    ∃ x ∈ m :: past, ∃ e, x.signal = .start e ∧ e.task = task ∧
      ∃ request, e.dispatcher.api.request e.dispatcher.codec m.before.session.site.id? e.call =
        .ok request ∧ requestsOf task m.events = [request] := by
  obtain ⟨x, hx, e, hstart, rfl, request, hrequest, hsent⟩ := h.sends_call hsends
  refine ⟨x, hx, e, hstart, rfl, request, hrequest, ?_⟩
  have hmem : request ∈ requestsOf e.task m.events := mem_requestsOf hsent
  have hone : (requestsOf e.task m.events).length ≤ 1 := h.kind.length_requestsOf
  -- one request at most has been sent, and this is one
  obtain ⟨only, honly⟩ := List.length_eq_one_iff.mp
    (Nat.le_antisymm hone (List.length_pos_of_mem hmem))
  rw [honly, List.mem_singleton] at hmem
  rw [honly, hmem]

/-- A task that sends a request for its call does not switch the site. -/
theorem isSwitch_of_sends (h : Run (m :: past) w) (hsends : m.sends task = true) :
    m.signal.isSwitch = false := by
  have htask := h.kind.task?_of_sends hsends
  cases hsignal : m.signal with
  | switch site =>
    rw [hsignal] at htask
    exact nomatch htask
  | _ => rfl

/-- What a dispatch sends for its call, compared with what it has sent before.

Each time it is the request of one call on behalf of the site that is active, so that the two have
the same method and the same headers, the same URL unless it carries the payload, and the same body
unless that does. They are the same request if the site named in it is the same, as it is if nobody
has switched it in between, and in any case if the payload is no map. -/
theorem resent_for_site (h : Run (newer ++ m :: (between ++ m' :: past)) w)
    (hsends : m.sends task = true) (hsends' : m'.sends task = true) :
    ∃ e r r', (∃ x ∈ m' :: past, x.signal = .start e) ∧ e.task = task ∧
      requestsOf task m.events = [r] ∧ requestsOf task m'.events = [r'] ∧
      e.dispatcher.api.request e.dispatcher.codec m.before.session.site.id? e.call = .ok r ∧
      e.dispatcher.api.request e.dispatcher.codec m'.before.session.site.id? e.call = .ok r' ∧
      Api.SameFrame r r' ∧
      (m.before.session.site.id? = m'.before.session.site.id? → r = r') ∧
      ((∀ x ∈ between, x.signal.isSwitch = false) → r = r') ∧
      ((∀ payload, e.call.payload? = some payload → payload.kind ≠ .map) → r = r') := by
  have hlater := h.of_append
  have hearlier : Run (m' :: past) m'.after := hlater.before.of_append
  obtain ⟨x, hx, e, hstart, htask, r, hr, honly⟩ := hlater.requestsOf_eq hsends
  obtain ⟨x', hx', e', hstart', htask', r', hr', honly'⟩ := hearlier.requestsOf_eq hsends'
  -- both are sent for the call that the task has started with
  obtain rfl : e = e' := hlater.errand_eq hx
    (List.mem_cons_of_mem _ (List.mem_append_right _ hx')) hstart hstart' (htask.trans htask'.symm)
  have hsame : m.before.session.site.id? = m'.before.session.site.id? → r = r' := by
    intro hsite
    rw [hsite] at hr
    exact Except.ok.inj (hr.symm.trans hr')
  refine ⟨e, r, r', ⟨x', hx', hstart'⟩, htask, honly, honly', hr, hr',
    Api.sameFrame_of_request hr hr', hsame, fun hstays => hsame ?_, fun hplain => ?_⟩
  · refine congrArg ActiveSite.id? (hlater.before.site_eq fun y hy => ?_)
    rcases List.mem_cons.mp hy with rfl | hy
    · exact hearlier.isSwitch_of_sends hsends'
    · exact hstays y hy
  · rw [Api.request_of_not_map hplain] at hr
    exact Except.ok.inj (hr.symm.trans hr')

/-- While the site stays as it is, the same page is written. -/
theorem resent_for_site_unswitched :
    ∃ m between m' w, replay? [] { session := { site := { id := 1 } } } (writingOnceLoggedIn []) =
        some (m :: (between ++ [m']), w) ∧ Run (m :: (between ++ [m'])) w ∧
      m.sends 0 = true ∧ m'.sends 0 = true ∧
      (∀ x ∈ between, x.signal.isSwitch = false) ∧
      requestsOf 0 m.events = [pageRequest 1] ∧ requestsOf 0 m'.events = [pageRequest 1] := by
  have hvalues : (replay? [] { session := { site := { id := 1 } } } (writingOnceLoggedIn [])).map
      (fun (history, _) =>
        (history.map fun x => (x.sends 0, x.signal.isSwitch), requestsFor 0 history)) =
        some ([(true, false), (false, false), (false, false), (true, false)],
          [pageRequest 1, pageRequest 1]) := by
    cbv
  obtain ⟨⟨history, w⟩, hreplay, hvalues⟩ := Option.map_eq_some_iff.mp hvalues
  obtain ⟨hmoments, hrequests⟩ := Prod.mk.inj hvalues
  obtain ⟨m, _, rfl, hm, hmoments⟩ := List.map_eq_cons_iff.mp hmoments
  obtain ⟨x, _, rfl, hx, hmoments⟩ := List.map_eq_cons_iff.mp hmoments
  obtain ⟨y, _, rfl, hy, hmoments⟩ := List.map_eq_cons_iff.mp hmoments
  obtain ⟨m', _, rfl, hm', hmoments⟩ := List.map_eq_cons_iff.mp hmoments
  obtain rfl := List.map_eq_nil_iff.mp hmoments
  simp only [Prod.mk.injEq] at hm hx hy hm'
  have hrun : Run (m :: ([x, y] ++ [m'])) w := Run.of_replay? (.idle { id := 1 }) hreplay
  have hstays : ∀ z ∈ [x, y], z.signal.isSwitch = false := by simp [hx.2, hy.2]
  obtain ⟨e, r, r', -, -, honly, honly', -, -, -, -, hsame, -⟩ :=
    @Run.resent_for_site [x, y] [] [] m m' w 0 hrun hm.1 hm'.1
  obtain rfl := hsame hstays
  -- the requests that the replay shows are those of the first moment and the last one
  have hpage : r = pageRequest 1 := by
    simpa [requestsFor, hm.1, hx.1, hy.1, hm'.1, honly, honly'] using hrequests
  rw [hpage] at honly honly'
  exact ⟨m, [x, y], m', w, hreplay, hrun, hm.1, hm'.1, hstays, honly, honly'⟩

/-- It is not the same page if the site is switched while the dispatch waits for the operator. -/
theorem resent_elsewhere :
    ¬ ∀ (history : List Moment) (w : Workload), Run history w → ∀ task,
      ∀ r ∈ requestsFor task history, ∀ r' ∈ requestsFor task history, r = r' := by
  intro hverbatim
  have hvalues : (replay? [] { session := { site := { id := 1 } } }
      (writingOnceLoggedIn [.switch { id := 2 }])).map (fun (history, _) =>
        requestsFor 0 history) = some [pageRequest 2, pageRequest 1] := by
    cbv
  obtain ⟨⟨history, w⟩, hreplay, hvalues⟩ := Option.map_eq_some_iff.mp hvalues
  dsimp only at hvalues
  have hrun := Run.of_replay? (.idle { id := 1 }) hreplay
  have hsame := hverbatim history w hrun 0 (pageRequest 2) (by simp [hvalues]) (pageRequest 1)
    (by simp [hvalues])
  exact absurd hsame (by decide)

end Run

end Courier
