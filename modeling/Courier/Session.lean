import Courier.Site

/-!
# `Courier.Session`: what the requests of an operator share

A session knows the active site, counts the requests in flight and the logins that succeeded, and
tells whether a login is under way. Requests that need a login meet at a turnstile, which lets one
in at a time and the others in the order of their arrival.
-/

set_option autoImplicit false

namespace Courier

/-- A turnstile that one task at a time is inside of. -/
structure Turnstile where
  /-- The task inside. -/
  holder? : Option Nat := none
  /-- The tasks in front of the turnstile, first come first. -/
  waiting : List Nat := []
deriving DecidableEq, Inhabited

namespace Turnstile

/-- A task comes to the turnstile, and is inside at once if nobody else is. -/
def enter (g : Turnstile) (task : Nat) : Turnstile :=
  match g.holder? with
  | none => { g with holder? := some task }
  | some _ => { g with waiting := g.waiting ++ [task] }

/-- A task leaves the turnstile, from inside or from the queue. When the inside becomes empty, the
first of the queue is let in. -/
def leave (g : Turnstile) (task : Nat) : Turnstile :=
  if g.holder? = some task then ⟨g.waiting.head?, g.waiting.tail⟩
  else { g with waiting := g.waiting.filter (· ≠ task) }

end Turnstile

/-- What the requests of an operator share. -/
structure Session where
  /-- Set by a request that logs in or is asked to, cleared by every request that ends. -/
  loggingIn : Bool := false
  /-- The number of open login dialogs. -/
  dialogsOpen : Nat := 0
  /-- The number of logins that succeeded. -/
  generation : Nat := 0
  /-- The number of requests that have begun and not ended. -/
  inFlight : Nat := 0
  turnstile : Turnstile := {}
  site : ActiveSite := {}
deriving DecidableEq, Inhabited

namespace Session

/-- Whether a login is under way. -/
def authenticating (s : Session) : Bool := s.loggingIn || s.dialogsOpen > 0

/-- The session with the mark of a login set or cleared. -/
def mark (s : Session) (on : Bool) : Session := { s with loggingIn := on }

/-- A login dialog opens. -/
def openDialog (s : Session) : Session := { s with dialogsOpen := s.dialogsOpen + 1 }

/-- A task closes its login dialog and leaves the turnstile. -/
def closeDialog (s : Session) (task : Nat) : Session :=
  { s with dialogsOpen := s.dialogsOpen - 1, turnstile := s.turnstile.leave task }

/-- A login succeeded. -/
def renew (s : Session) : Session := { s with generation := s.generation + 1 }

end Session

end Courier
