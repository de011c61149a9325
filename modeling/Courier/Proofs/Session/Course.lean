import Courier.Proofs.Session.Solo

/-!
# `Courier.Proofs.Session.Course`: the course of a dispatch

A dispatch that is alone in its session is at the mercy of two others: the server, which answers
what it sends, and the operator, who answers its dialogs. A `Course` tells how that has gone, in the
words of somebody who looks at it from outside. The request is sent. Each demand to log in opens a
dialog, in which logins fail until one succeeds, and then the request is sent again: a `Round`.
Behind the rounds stands what has become of the last request (`Course.Last`): it has not been
answered, or it has been answered for good, or its dialog has not led to a login.

`Errand.courseEvents` is what such a course lets be seen. It knows nothing of sessions, marks or
phases. That every dispatch has a course is proved in `Courier.Proofs.Session.Play`; here is what
follows from having one. Events of one kind are told by the answers to the logins, by the last
answer and by the end (`Errand.filterMap_courseEvents`).
-/

set_option autoImplicit false

namespace Courier

/-! ### Courses -/

/-- A login out of a dialog, and the answer to it. -/
structure Attempt where
  entered : Credentials
  outcome : Except TransportError Http.Response

/-- A demand to log in that has been met. -/
structure Round where
  /-- The answer to the request. -/
  demand : Except TransportError Http.Response
  /-- The logins that have failed. -/
  failed : List Attempt
  /-- The login that has succeeded. -/
  login : Attempt

/-- Where a dialog has come to that has not led to a login. -/
inductive Stop where
  /-- The operator has not answered yet. -/
  | asking
  /-- The operator has given up. -/
  | dismissed
  /-- The server has not answered the login yet. -/
  | loggingIn (entered : Credentials)

/-- What has become of the last request. -/
inductive Course.Last where
  | unanswered
  | answered (outcome : Except TransportError Http.Response)
  /-- The answer is a demand to log in, and there is nobody to ask. -/
  | unattended (demand : Except TransportError Http.Response)
  | inDialog (demand : Except TransportError Http.Response) (failed : List Attempt) (stop : Stop)

/-- The course of a dispatch. -/
structure Course where
  rounds : List Round
  last : Course.Last

/-! ### What a course takes out of a script -/

namespace Attempt

/-- The answers to some logins. -/
def outcomes (as : List Attempt) : List (Except TransportError Http.Response) :=
  as.map (·.outcome)

/-- What has been entered for some logins. -/
def entries (as : List Attempt) : List (Option Credentials) := as.map (some ·.entered)

/-- None of these logins has succeeded. -/
def AllFailed (codec : Codec) (as : List Attempt) : Prop :=
  ∀ a ∈ as, codec.accepts a.outcome = false

end Attempt

namespace Round

def outcomes (r : Round) : List (Except TransportError Http.Response) :=
  r.demand :: Attempt.outcomes (r.failed ++ [r.login])

def entries (r : Round) : List (Option Credentials) := Attempt.entries (r.failed ++ [r.login])

/-- The answers are what the round takes them for. -/
structure Fits (r : Round) (d : Dispatcher) : Prop where
  attended : d.attended = true
  demand : demandsLogin r.demand = true
  failed : Attempt.AllFailed d.codec r.failed
  login : d.codec.accepts r.login.outcome = true

end Round

namespace Stop

def entries : Stop → List (Option Credentials)
  | .asking => []
  | .dismissed => [none]
  | .loggingIn entered => [some entered]

end Stop

namespace Course

namespace Last

def outcomes : Last → List (Except TransportError Http.Response)
  | .unanswered => []
  | .answered outcome => [outcome]
  | .unattended demand => [demand]
  | .inDialog demand failed _ => demand :: Attempt.outcomes failed

def entries : Last → List (Option Credentials)
  | .unanswered => []
  | .answered _ => []
  | .unattended _ => []
  | .inDialog _ failed stop => Attempt.entries failed ++ stop.entries

/-- The answers are what this takes them for, and somebody is asked only if there is somebody. -/
def Fits (d : Dispatcher) : Last → Prop
  | .unanswered => True
  | .answered outcome => demandsLogin outcome = false
  | .unattended demand => demandsLogin demand = true ∧ d.attended = false
  | .inDialog demand failed _ =>
    demandsLogin demand = true ∧ Attempt.AllFailed d.codec failed ∧ d.attended = true

/-- The answer of the server is still to come. -/
def awaitsOutcome : Last → Bool
  | .unanswered => true
  | .inDialog _ _ (.loggingIn _) => true
  | _ => false

/-- The answer of the operator is still to come. -/
def awaitsEntry : Last → Bool
  | .inDialog _ _ .asking => true
  | _ => false

/-- What the dispatch has ended with. -/
def result? (codec : Codec) : Last → Option (Except CallError Value)
  | .answered outcome => some (codec.result outcome)
  | .unattended _ => some (.error .abandoned)
  | .inDialog _ _ .dismissed => some (.error .abandoned)
  | _ => none

end Last

variable (c : Course)

/-- The answers of the server, in order. -/
def outcomes : List (Except TransportError Http.Response) :=
  c.rounds.flatMap (·.outcomes) ++ c.last.outcomes

/-- The answers of the operator, in order. -/
def entries : List (Option Credentials) := c.rounds.flatMap (·.entries) ++ c.last.entries

/-- The logins that have been answered, in order. -/
def attempts : List Attempt :=
  c.rounds.flatMap (fun r => r.failed ++ [r.login]) ++
    match c.last with
    | .inDialog _ failed _ => failed
    | _ => []

/-- The answer that has ended the dispatch. -/
def answer? : Option (Except TransportError Http.Response) :=
  match c.last with
  | .answered outcome => some outcome
  | _ => none

/-- What the dispatch has ended with, if it has. -/
def result? (codec : Codec) : Option (Except CallError Value) := c.last.result? codec

/-- The answers are what the course takes them for. -/
structure Fits (d : Dispatcher) : Prop where
  rounds : ∀ r ∈ c.rounds, r.Fits d
  last : c.last.Fits d

/-- The generation that the session has come to: every round is a login, and so is the call itself
if the operator asked for it and it has succeeded. -/
def generationAfter (e : Errand) (generation : Nat) : Nat :=
  match c.result? e.dispatcher.codec with
  | none => generation + c.rounds.length
  | some result => e.generationAfter result (generation + c.rounds.length)

end Course

/-! ### What a course lets be seen -/

namespace Errand

variable (e : Errand) (post : Credentials → Http.Request) (request : Http.Request)

/-- The operator is told of an answer. -/
def tells (authenticating : Bool) (outcome : Except TransportError Http.Response) : List Event :=
  (e.dispatcher.codec.notices authenticating outcome).map (.notice e.front e.task ·)

/-- What is entered is posted, and an answer comes. -/
def attemptEvents (a : Attempt) : List Event :=
  .sent e.task (post a.entered) :: e.tells true a.outcome

/-- The dialog opens with no error to tell of. After each login that fails it asks again, and says
why. -/
def dialogEvents (failed : List Attempt) : List Event :=
  .asked e.task none :: failed.flatMap fun a =>
    e.attemptEvents post a ++ [.asked e.task (some (failureText e.dispatcher.codec a.outcome))]

/-- After the login that succeeds the request is sent again. -/
def roundEvents (r : Round) : List Event :=
  e.dialogEvents post r.failed ++ e.attemptEvents post r.login ++ [.sent e.task request]

/-- What is seen of the last request after it has been sent. -/
def lastEvents (armed : Bool) : Course.Last → List Event
  | .unanswered => []
  | .answered outcome =>
    e.tells armed outcome ++ e.soloEnd (e.dispatcher.codec.result outcome)
  | .unattended _ => e.soloEnd (.error .abandoned)
  | .inDialog _ failed .asking => e.dialogEvents post failed
  | .inDialog _ failed .dismissed => e.dialogEvents post failed ++ e.soloEnd (.error .abandoned)
  | .inDialog _ failed (.loggingIn entered) =>
    e.dialogEvents post failed ++ [.sent e.task (post entered)]

/-- What is seen of a course after its first request has been sent. A dispatch that has gone through
a round is armed. -/
def courseEvents (armed : Bool) (c : Course) : List Event :=
  c.rounds.flatMap (e.roundEvents post request) ++
    e.lastEvents post (armed || !c.rounds.isEmpty) c.last

end Errand

/-- What the front end shows of its waiting from now on. -/
def Event.shown? : Event → Option Bool
  | .loading _ visible => some visible
  | _ => none

/-- What the caller of a task is called back with now. -/
def Event.callback? (task : Nat) (wantsFailures : Bool) : Event → Option Callback
  | .ended t result => if t = task then Callback.of? wantsFailures result else none
  | _ => none

/-- What a caller is called back with in a course: the body, or else the error that the server has
reported. -/
def Course.callbacks (codec : Codec) (wantsFailures : Bool) (c : Course) : List Callback :=
  match c.result? codec with
  | some (.ok body) => [.success body]
  | some (.error (.refused status text)) => if wantsFailures then [.failure status text] else []
  | _ => []

/-! ### Rounds in front, and giving up -/

namespace Course

variable {e : Errand} {generation : Nat}

/-- The outcomes of a round in front come first. -/
theorem outcomes_cons (r : Round) (c : Course) :
    outcomes ⟨r :: c.rounds, c.last⟩ = r.outcomes ++ c.outcomes := by
  simp [outcomes]

/-- So do its entries. -/
theorem entries_cons (r : Round) (c : Course) :
    entries ⟨r :: c.rounds, c.last⟩ = r.entries ++ c.entries := by
  simp [entries]

/-- A round in front adds one login. -/
theorem generationAfter_cons (r : Round) (c : Course) :
    generationAfter ⟨r :: c.rounds, c.last⟩ e generation =
      c.generationAfter e (generation + 1) := by
  have hlength : generation + (r :: c.rounds).length = generation + 1 + c.rounds.length := by
    simp only [List.length_cons]
    omega
  simp only [generationAfter, hlength]
  rfl

/-- Giving up is no login. -/
theorem generationAfter_abandoned {last : Last}
    (h : last.result? e.dispatcher.codec = some (.error .abandoned)) :
    generationAfter ⟨[], last⟩ e generation = generation := by
  rw [generationAfter, result?, h]
  exact e.generationAfter_error .abandoned generation

end Course

namespace Errand

variable {e : Errand} {post : Credentials → Http.Request} {request : Http.Request} {armed : Bool}

/-- One more failed attempt is seen behind the others, and the dialog asks again. -/
theorem dialogEvents_concat (failed : List Attempt) (a : Attempt) :
    e.dialogEvents post (failed ++ [a]) =
      e.dialogEvents post failed ++ (e.attemptEvents post a ++
        [.asked e.task (some (failureText e.dispatcher.codec a.outcome))]) := by
  simp [dialogEvents]

/-! ### What is seen of a course, one kind of event at a time -/

section
variable {α : Type} {f : Event → Option α} (hsent : ∀ request, f (.sent e.task request) = none)
  (hasked : ∀ lastError, f (.asked e.task lastError) = none)

include hsent in
/-- But for its request, all that is seen of an attempt is what it tells. -/
theorem filterMap_attemptEvents (a : Attempt) :
    (e.attemptEvents post a).filterMap f = (e.tells true a.outcome).filterMap f :=
  List.filterMap_cons_none (hsent _)

include hsent hasked in
/-- But for requests and questions, all that is seen of a dialog is what its attempts tell. -/
theorem filterMap_dialogEvents (post : Credentials → Http.Request) (failed : List Attempt) :
    (e.dialogEvents post failed).filterMap f =
      failed.flatMap fun a => (e.tells true a.outcome).filterMap f := by
  rw [dialogEvents, List.filterMap_cons_none (hasked none)]
  induction failed with
  | nil => rfl
  | cons a as ih =>
    rw [List.flatMap_cons, List.filterMap_append, ih, List.filterMap_append,
      filterMap_attemptEvents hsent, List.filterMap_cons_none (hasked _), List.filterMap_nil,
      List.append_nil, List.flatMap_cons]

include hsent hasked in
/-- The same goes for a round, whose login is its last attempt. -/
theorem filterMap_roundEvents (r : Round) :
    (e.roundEvents post request r).filterMap f =
      (r.failed ++ [r.login]).flatMap fun a => (e.tells true a.outcome).filterMap f := by
  rw [roundEvents, List.filterMap_append, List.filterMap_append,
    filterMap_dialogEvents hsent hasked, filterMap_attemptEvents hsent,
    List.filterMap_cons_none (hsent request), List.filterMap_nil, List.append_nil,
    List.flatMap_append, List.flatMap_singleton]

include hsent hasked in
/-- What is seen of a course but requests and dialogs: what the operator is told of each login and
of the last answer, and the end. -/
theorem filterMap_courseEvents (c : Course) :
    (e.courseEvents post request armed c).filterMap f =
      (c.attempts.flatMap fun a => (e.tells true a.outcome).filterMap f) ++
        (c.answer?.toList.flatMap fun outcome =>
          (e.tells (armed || !c.rounds.isEmpty) outcome).filterMap f) ++
        ((c.result? e.dispatcher.codec).toList.flatMap e.soloEnd).filterMap f := by
  obtain ⟨rounds, last⟩ := c
  have hrounds : (rounds.flatMap (e.roundEvents post request)).filterMap f =
      (rounds.flatMap fun r => r.failed ++ [r.login]).flatMap fun a =>
        (e.tells true a.outcome).filterMap f := by
    induction rounds with
    | nil => rfl
    | cons r rounds ih =>
      rw [List.flatMap_cons, List.filterMap_append, ih, filterMap_roundEvents hsent hasked,
        List.flatMap_cons, List.flatMap_append, List.flatMap_append, List.flatMap_append]
  rw [courseEvents, List.filterMap_append, hrounds, Course.attempts, List.flatMap_append]
  -- only a course that ends inside its dialog has attempts behind its rounds
  cases last with
  | unanswered => simp [lastEvents, Course.answer?, Course.result?, Course.Last.result?]
  | answered outcome => simp [lastEvents, Course.answer?, Course.result?, Course.Last.result?]
  | unattended demand => simp [lastEvents, Course.answer?, Course.result?, Course.Last.result?]
  | inDialog demand failed stop =>
    have hdialog := filterMap_dialogEvents hsent hasked post failed
    cases stop with
    | asking => simp [lastEvents, Course.answer?, Course.result?, Course.Last.result?, hdialog]
    | dismissed => simp [lastEvents, Course.answer?, Course.result?, Course.Last.result?, hdialog]
    | loggingIn entered =>
      simp [lastEvents, Course.answer?, Course.result?, Course.Last.result?, hdialog, hsent]

end

/-- A kind of events that is neither requests nor dialogs nor notices is seen at the end only. -/
theorem filterMap_courseEvents_of_end {α : Type} {f : Event → Option α}
    (hsent : ∀ request, f (.sent e.task request) = none)
    (hasked : ∀ lastError, f (.asked e.task lastError) = none)
    (hnotice : ∀ notice, f (.notice e.front e.task notice) = none) (c : Course) :
    (e.courseEvents post request armed c).filterMap f =
      ((c.result? e.dispatcher.codec).toList.flatMap e.soloEnd).filterMap f := by
  have htells : ∀ authenticating outcome, (e.tells authenticating outcome).filterMap f = [] := by
    intro authenticating outcome
    refine List.filterMap_eq_nil_iff.mpr fun event hevent => ?_
    obtain ⟨notice, -, rfl⟩ := List.mem_map.mp hevent
    exact hnotice notice
  rw [filterMap_courseEvents hsent hasked, List.flatMap_eq_nil_iff.mpr fun a _ => htells _ _,
    List.flatMap_eq_nil_iff.mpr fun outcome _ => htells _ _]
  rfl

/-- That something is going on is hidden when the course is over. -/
theorem shown?_courseEvents (c : Course) :
    (e.courseEvents post request armed c).filterMap Event.shown? =
      (c.result? e.dispatcher.codec).toList.map fun _ => false := by
  rw [filterMap_courseEvents_of_end (fun _ => rfl) (fun _ => rfl) (fun _ => rfl)]
  cases c.result? e.dispatcher.codec <;> rfl

/-- The caller is called back when the course is over, and at most once. -/
theorem callback?_courseEvents (wantsFailures : Bool) (c : Course) :
    (e.courseEvents post request armed c).filterMap (·.callback? e.task wantsFailures) =
      c.callbacks e.dispatcher.codec wantsFailures := by
  rw [filterMap_courseEvents_of_end (fun _ => rfl) (fun _ => rfl) (fun _ => rfl), Course.callbacks]
  cases c.result? e.dispatcher.codec with
  | none => rfl
  | some result =>
    have hend : ((some result).toList.flatMap e.soloEnd).filterMap
        (·.callback? e.task wantsFailures) = (Callback.of? wantsFailures result).toList := by
      cases hcallback : Callback.of? wantsFailures result <;>
        simp [soloEnd, Event.callback?, hcallback]
    rw [hend]
    cases result with
    | ok body => rfl
    | error cause => cases cause <;> cases wantsFailures <;> rfl

end Errand

end Courier
