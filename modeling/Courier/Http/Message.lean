import Courier.Bytes
import Courier.Method

/-!
# `Courier.Http.Message`: requests and answers

What is handed to the network and what comes back, without the form that they have on the wire.
-/

set_option autoImplicit false

namespace Courier.Http

/-- A request to an absolute URL. -/
structure Request where
  method : Method
  url : String
  headers : List (String × String) := []
  body? : Option Bytes := none
deriving DecidableEq

/-- A letter of ASCII in lower case, any other character unchanged. -/
def lowerChar (c : Char) : Char := c.toLower

/-- Whether two names differ at most in the case of letters of ASCII. -/
def sameName (a b : String) : Bool := a.toList.map lowerChar = b.toList.map lowerChar

/-- The value of the first header with this name, in any case. -/
def Request.header? (r : Request) (name : String) : Option String :=
  (r.headers.find? fun h => sameName h.1 name).map (·.2)

/-- The status and the body of an answer. -/
structure Response where
  status : Nat
  body : Bytes
deriving DecidableEq

end Courier.Http
