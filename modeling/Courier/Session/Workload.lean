import Courier.Session.Dispatch

/-!
# `Courier.Session.Workload`: all requests of a session

The dispatches of a session take turns. A step of the workload lets one of them run to the next
point at which it has to wait, drops one, or switches the site. `settle` lets in whoever has come
to stand inside the turnstile, until everybody waits for something from outside.
-/

set_option autoImplicit false

namespace Courier

/-- A session and its dispatches, in the order in which they began. -/
structure Workload where
  session : Session := {}
  dispatches : List Dispatch := []

/-- What sets a workload in motion. -/
inductive Signal where
  | start (errand : Errand)
  /-- The answer to the request, or to the login, that a task has sent. -/
  | answer (task : Nat) (outcome : Except TransportError Http.Response)
  /-- What the operator enters into the dialog of a task, or nothing if it is dismissed. -/
  | credentials (task : Nat) (entered : Option Credentials)
  /-- A task goes on, now that it is inside the turnstile. -/
  | proceed (task : Nat)
  | drop (task : Nat)
  | switch (site : ActiveSite)

namespace Workload

/-- The live dispatch of a task. -/
def find? (w : Workload) (task : Nat) : Option Dispatch :=
  w.dispatches.find? (·.errand.task = task)

/-- The dispatches of other tasks. -/
def others (w : Workload) (task : Nat) : List Dispatch :=
  w.dispatches.filter (·.errand.task ≠ task)

/-- The dispatches after one of them has run. -/
def replace (w : Workload) (task : Nat) (next? : Option Dispatch) : List Dispatch :=
  match next? with
  | none => w.others task
  | some next => w.dispatches.map fun d => if d.errand.task = task then next else d

/-- The workload after a stretch of one of its dispatches. -/
def run (w : Workload) (task : Nat) (t : Stretch) : Workload × List Event :=
  (⟨t.session, w.replace task t.next?⟩, t.events)

/-- A step, if the signal is one that the workload waits for. -/
def step? (w : Workload) : Signal → Option (Workload × List Event)
  | .start e =>
    let t := e.start w.session
    some (⟨t.session, w.dispatches ++ t.next?.toList⟩, t.events)
  | .answer task outcome => do
    let d ← w.find? task
    match d.phase with
    | .sending seen => some (w.run task (d.errand.receive seen outcome w.session))
    | .loggingIn => some (w.run task (d.errand.loggedIn outcome w.session))
    | _ => none
  | .credentials task entered => do
    let d ← w.find? task
    match d.phase with
    | .prompting => some (w.run task (d.errand.answered entered w.session))
    | _ => none
  | .proceed task => do
    let d ← w.find? task
    match d.phase with
    | .atTurnstile seen =>
      if w.session.turnstile.holder? = some task then
        some (w.run task (d.errand.admitted seen w.session))
      else none
    | _ => none
  | .drop task => do
    let d ← w.find? task
    let (s, events) := d.drop w.session
    some (⟨s, w.others task⟩, events)
  | .switch site => some ({ w with session := { w.session with site := site } }, [])

/-- Lets in whoever is inside the turnstile, at most `count` times. -/
def settleUpTo : (count : Nat) → Workload → Workload × List Event
  | 0, w => (w, [])
  | count + 1, w =>
    match w.session.turnstile.holder?.bind fun task => w.step? (.proceed task) with
    | none => (w, [])
    | some (next, events) =>
      let (settled, more) := settleUpTo count next
      (settled, events ++ more)

/-- Lets dispatches in through the turnstile until nobody can go on without a signal from outside.
Each of them comes from the queue or is inside already. -/
def settle (w : Workload) : Workload × List Event :=
  settleUpTo (w.session.turnstile.waiting.length + 1) w

/-- A step, after which the workload settles. -/
def advance? (w : Workload) (signal : Signal) : Option (Workload × List Event) := do
  let (next, events) ← w.step? signal
  let (settled, more) := next.settle
  some (settled, events ++ more)

end Workload

end Courier
