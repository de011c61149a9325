import Courier.CallError
import Courier.Disk
import Courier.Json.Fault
import Courier.Text.Integer
import Courier.Text.Paint

/-!
# `Courier.Failure`: why nothing came of a command

A command fails before anything is sent, because its words or its files are wrong, or because its
call failed. `Failure.report?` is what is printed for it: most failures of calls are not printed,
because the operator has got a notice of them.
-/

set_option autoImplicit false

namespace Courier

/-- Why nothing came of a command. -/
inductive Failure where
  | call (cause : CallError)
  /-- The payload to be shown has no bytes. -/
  | wire (cause : WireError)
  /-- The payload is not JSON. -/
  | json (fault : Json.Fault) (text : String)
  | file (cause : FileError)
  /-- The id of a site is no integer. -/
  | number (cause : Text.IntegerError)
  /-- The words of the command mean nothing. -/
  | words (detail : String)
  /-- The input ended where something had to be entered. -/
  | inputEnded
deriving DecidableEq

namespace Failure

/-- The text of a failure. -/
def message : Failure → String
  | .call cause => cause.message
  | .wire cause => cause.message
  | .json fault text => fault.message text
  | .file cause => cause.message
  | .number cause => cause.message
  | .words detail => detail
  | .inputEnded => "EOF"

/-- The line for an error. -/
def errorLine (colored : Bool) (text : String) : String :=
  Text.paint colored .red "Error" ++ ": " ++ text

/-- The line for a login that the operator gave up. -/
def cancelledLine (colored : Bool) : String := Text.paint colored .yellow "Login cancelled"

/-- The line that is printed for a failure, if the operator does not know of it already. -/
def report? (colored : Bool) (f : Failure) : Option String :=
  match f with
  | .call .abandoned => some (cancelledLine colored)
  | .call (.encode _) => some (errorLine colored f.message)
  | .call _ => none
  | _ => some (errorLine colored f.message)

end Failure

end Courier
