import Courier.Api
import Courier.Api.Verdict
import Courier.Session

/-!
# `Courier.Session.Dispatch`: the life of a request

A dispatch sends the request of a call. If the server asks for a login, the dispatch goes through
the turnstile, and unless another one has logged in since it sent its request, it shows a login
dialog until a login succeeds or the operator gives up. After a login it sends the request again.

Between two points at which it has to wait, a dispatch runs without interruption. `Stretch` is
such a run: what it makes of the session, what it lets be seen, and how the dispatch goes on, if
it does.
-/

set_option autoImplicit false

namespace Courier

/-- What sends calls to an API on behalf of a front end. -/
structure Dispatcher where
  api : Api := {}
  codec : Codec := .standard
  /-- Whether there is somebody to ask for a login. -/
  attended : Bool := true

/-- A call to carry out. -/
structure Errand where
  /-- The number of the task. -/
  task : Nat
  /-- The number of the front end that the dispatcher acts for. -/
  front : Nat
  dispatcher : Dispatcher
  call : Call
  /-- Whether the operator asked for this login, so that its success counts as one. -/
  isLogin : Bool := false

/-- Whether the call itself logs in. -/
def Errand.authenticates (e : Errand) : Bool :=
  e.call.endpoint = e.dispatcher.api.authEndpoint

/-- What a dispatch lets be seen. -/
inductive Event where
  /-- The front end shows or hides that something is going on. -/
  | loading (front : Nat) (visible : Bool)
  | notice (front task : Nat) (notice : Notice)
  | sent (task : Nat) (request : Http.Request)
  /-- The login dialog is shown, with the reason why the last login failed. -/
  | asked (task : Nat) (lastError : Option String)
  | ended (task : Nat) (result : Except CallError Value)

/-- What a dispatch waits for. -/
inductive Phase where
  /-- The answer to its request, before which it read the generation `seen`. -/
  | sending (seen : Nat)
  /-- Its turn at the turnstile. -/
  | atTurnstile (seen : Nat)
  /-- The answer of the operator. -/
  | prompting
  /-- The answer to a login out of its dialog. -/
  | loggingIn
deriving DecidableEq

/-- A dispatch that waits. -/
structure Dispatch where
  errand : Errand
  /-- Whether it has marked the session and has to clear the mark if it is dropped. -/
  armed : Bool
  phase : Phase

/-- A run of a dispatch from one point at which it waits to the next or to its end. -/
structure Stretch where
  session : Session
  events : List Event
  next? : Option Dispatch

namespace Stretch

/-- The same run, seen together with what happened before it. -/
def after (events : List Event) (t : Stretch) : Stretch := { t with events := events ++ t.events }

end Stretch

namespace Errand

/-- The request is no longer in flight. The last one hides that something is going on. -/
def depart (e : Errand) (s : Session) : Session × List Event :=
  ({ s with inFlight := s.inFlight - 1 }, if s.inFlight = 1 then [.loading e.front false] else [])

/-- The dispatch ends, with the mark of a login cleared. -/
def finish (e : Errand) (result : Except CallError Value) (s : Session) : Stretch :=
  let (s, events) := e.depart (s.mark false)
  let s := if e.isLogin && result.isOk then s.renew else s
  ⟨s, events ++ [.ended e.task result], none⟩

/-- Sends the request. A request that logs in marks the session. -/
def send (e : Errand) (armed : Bool) (s : Session) : Stretch :=
  match e.dispatcher.api.request e.dispatcher.codec s.site.id? e.call with
  | .error cause => e.finish (.error (.encode cause)) s
  | .ok request =>
    ⟨if e.authenticates then s.mark true else s, [.sent e.task request],
      some ⟨e, armed, .sending s.generation⟩⟩

/-- Begins: the first request in flight shows that something is going on. -/
def start (e : Errand) (s : Session) : Stretch :=
  let shown := if s.inFlight = 0 then [.loading e.front true] else []
  let s := { s with inFlight := s.inFlight + 1 }
  let s := if e.authenticates then s.mark true else s
  (e.send e.authenticates s).after shown

/-- Shows the login dialog, or gives up if there is nobody to ask. -/
def ask (e : Errand) (lastError : Option String) (s : Session) : Stretch :=
  if e.dispatcher.attended then ⟨s, [.asked e.task lastError], some ⟨e, true, .prompting⟩⟩
  else e.finish (.error .abandoned) (s.closeDialog e.task)

/-- Inside the turnstile: the request is sent again if somebody has logged in since, and otherwise
the login dialog opens. -/
def admitted (e : Errand) (seen : Nat) (s : Session) : Stretch :=
  if s.generation = seen then e.ask none s.openDialog
  else e.send true ({ s with turnstile := s.turnstile.leave e.task }.mark true)

/-- The server asks for a login: the dispatch marks the session and goes to the turnstile. -/
def requireLogin (e : Errand) (seen : Nat) (s : Session) : Stretch :=
  let s := { s.mark true with turnstile := s.turnstile.enter e.task }
  if s.turnstile.holder? = some e.task then e.admitted seen s
  else ⟨s, [], some ⟨e, true, .atTurnstile seen⟩⟩

/-- The answer to the request has come. -/
def receive (e : Errand) (seen : Nat) (outcome : Except TransportError Http.Response)
    (s : Session) : Stretch :=
  match Verdict.of e.dispatcher.codec s.authenticating outcome with
  | .loginRequired => e.requireLogin seen s
  | .ended notices result =>
    (e.finish result s).after (notices.map (.notice e.front e.task ·))

/-- The operator has answered the login dialog. -/
def answered (e : Errand) (credentials : Option Credentials) (s : Session) : Stretch :=
  match credentials with
  | none => e.finish (.error .abandoned) (s.closeDialog e.task)
  | some c =>
    let login := c.login e.dispatcher.api.authEndpoint
    match e.dispatcher.api.request e.dispatcher.codec s.site.id? login with
    | .error cause => e.ask (some (CallError.encode cause).message) (s.mark false)
    | .ok request => ⟨s.mark true, [.sent e.task request], some ⟨e, true, .loggingIn⟩⟩

/-- What the dialog says after a login to which the server answers with a demand to log in. -/
def loginDenied : String := "Access denied."

/-- The answer to a login out of the dialog has come. -/
def loggedIn (e : Errand) (outcome : Except TransportError Http.Response) (s : Session) :
    Stretch :=
  match Verdict.of e.dispatcher.codec s.authenticating outcome with
  | .loginRequired => e.ask (some loginDenied) s
  | .ended notices result =>
    Stretch.after (notices.map (.notice e.front e.task ·)) <|
      match result with
      | .ok _ => e.send true (((s.mark false).renew.closeDialog e.task).mark true)
      | .error cause => e.ask (some cause.message) (s.mark false)

end Errand

/-- A dispatch is dropped while it waits. It leaves the turnstile, closes its dialog, and clears the
mark that it has set. -/
def Dispatch.drop (d : Dispatch) (s : Session) : Session × List Event :=
  let s :=
    match d.phase with
    | .sending _ => s
    | .atTurnstile _ => { s with turnstile := s.turnstile.leave d.errand.task }
    | .prompting => s.closeDialog d.errand.task
    | .loggingIn => s.closeDialog d.errand.task
  d.errand.depart (if d.armed then s.mark false else s)

end Courier
