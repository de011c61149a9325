import Courier.Method
import Courier.Text.Quoted
import Courier.Value

/-!
# `Courier.Call`: what the operator asks of the API

A call names a method and an endpoint below the base URL and may carry a payload. It does not
change while it is carried out, so that it can be sent again after a login. Credentials are the
payload of the call that logs in.
-/

set_option autoImplicit false

namespace Courier

/-- A call of the API. -/
structure Call where
  method : Method
  endpoint : String
  payload? : Option Value := none

/-- What the operator logs in with. -/
structure Credentials where
  /-- The name or the mail address of the operator. -/
  user : String
  pass : String
deriving DecidableEq, Inhabited

namespace Credentials

/-- The payload of a login. -/
def payload (c : Credentials) : Value :=
  .ofFields [("user", .string c.user), ("pass", .string c.pass)]

/-- The call that logs in at an endpoint. -/
def login (c : Credentials) (endpoint : String) : Call := ⟨.post, endpoint, some c.payload⟩

/-- A description that does not tell the password. -/
def describe (c : Credentials) : String :=
  "Credentials \x7b user: " ++ Text.quoted c.user ++ ", pass: " ++ Text.quoted "<redacted>"
    ++ " \x7d"

end Credentials

end Courier
