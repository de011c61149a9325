import Courier.CallError
import Courier.Envelope
import Courier.Http.Message
import Courier.Text.Lossy

/-!
# `Courier.Api.Verdict`: what an answer means

An answer ends the call or asks for a login. What the operator is told is decided here too:
failures to get or to read an answer always, warnings always, and errors that the server reports
only while nobody is logging in.
-/

set_option autoImplicit false

namespace Courier

/-- How grave a notice is. -/
inductive Notice.Kind where
  | info
  | error
deriving DecidableEq

/-- What the operator is told. -/
structure Notice where
  kind : Notice.Kind
  text : String
deriving DecidableEq

/-- The notice of an error. -/
def Notice.ofError (e : CallError) : Notice := ⟨.error, e.message⟩

/-- What an answer means. -/
inductive Verdict where
  | loginRequired
  | ended (notices : List Notice) (result : Except CallError Value)

/-- The meaning of an answer, or of the lack of one. -/
def Verdict.of (codec : Codec) (authenticating : Bool) :
    Except TransportError Http.Response → Verdict
  | .error e => .ended [.ofError (.ofTransport e)] (.error (.ofTransport e))
  | .ok r =>
    if r.status = 200 then
      match codec.decodeEnvelope r.body with
      | .ok envelope => .ended (envelope.warnings.map (⟨.info, ·⟩)) (.ok envelope.body)
      | .error e => .ended [.ofError (.decode e)] (.error (.decode e))
    else if r.status = 403 then .loginRequired
    else
      let e := CallError.refused r.status (Text.lossy r.body)
      .ended (if authenticating then [] else [.ofError e]) (.error e)

end Courier
