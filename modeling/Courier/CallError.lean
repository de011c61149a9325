import Courier.TransportError
import Courier.Value
import Courier.WireError

/-!
# `Courier.CallError`: how a call fails

A call that does not end in a body ends in one of these errors. Which of them the operator has
been told of is decided where they arise (`Courier.Api.Verdict`).

A caller may leave functions behind instead of waiting for a result: one for the body, and one for
errors that the server reports. Of any other error the operator has been told, or it is one that the
operator has decided on, and no function is called.
-/

set_option autoImplicit false

namespace Courier

/-- Why a call has no body. -/
inductive CallError where
  /-- The payload has no bytes. -/
  | encode (cause : WireError)
  /-- The answer is no envelope. -/
  | decode (cause : WireError)
  /-- The operator declined to log in. -/
  | abandoned
  /-- The server answered with an error of its own. -/
  | refused (status : Nat) (text : String)
  /-- The head of the answer came, but not its body. -/
  | body (detail : String)
  /-- There was no answer. -/
  | transport (cause : TransportError)
deriving DecidableEq

namespace CallError

/-- What the operator is told if there was no answer. -/
def connectivityMessage : String :=
  "Your request could not be made. Please check your internet connection."

/-- The text of an error. -/
def message : CallError → String
  | .encode cause => "failed to encode request payload: " ++ cause.message
  | .decode cause => "An error occurred reading the response: " ++ cause.message
  | .abandoned => "authentication was abandoned"
  | .refused _ text => text
  | .body detail => "An error occurred. (" ++ detail ++ ")"
  | .transport cause =>
    if cause.message = "" then connectivityMessage
    else connectivityMessage ++ " (" ++ cause.message ++ ")"

/-- The error of a call whose request got no answer. -/
def ofTransport : TransportError → CallError
  | .bodyRead detail => .body detail
  | e => .transport e

/-- The status of an answer in which the server reports an error. -/
def status? : CallError → Option Nat
  | .refused status _ => some status
  | _ => none

end CallError

/-- What a caller is called back with. -/
inductive Callback where
  | success (body : Value)
  /-- The status and the text of an error that the server reports. -/
  | failure (status : Nat) (text : String)

/-- The callback of a result, if there is one. Some callers do not want to hear of failures. -/
def Callback.of? (wantsFailures : Bool) : Except CallError Value → Option Callback
  | .ok body => some (.success body)
  | .error (.refused status text) => if wantsFailures then some (.failure status text) else none
  | .error _ => none

end Courier
