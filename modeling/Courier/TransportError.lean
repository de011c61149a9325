/-!
# `Courier.TransportError`: why a request got no answer

One constructor per cause below the status line.
-/

set_option autoImplicit false

namespace Courier

/-- Why a request got no answer. -/
inductive TransportError where
  /-- The system refused to connect, read or write. -/
  | io (detail : String)
  | invalidUrl (detail : String)
  /-- The peer does not follow the rules of HTTP. -/
  | http (detail : String)
  | timeout
  /-- The head of the answer came, but not its body. -/
  | bodyRead (detail : String)
  | connectionClosed
  | tlsConfig (detail : String)
  | tlsHandshake (detail : String)
  /-- Nothing is known. -/
  | unreachable
deriving DecidableEq, Inhabited

namespace TransportError

/-- The text of an error. -/
def message : TransportError → String
  | .io detail => detail
  | .invalidUrl detail => "invalid URL: " ++ detail
  | .http detail => "HTTP error: " ++ detail
  | .timeout => "request timeout"
  | .bodyRead detail => detail
  | .connectionClosed => "connection closed"
  | .tlsConfig detail => "TLS configuration error: " ++ detail
  | .tlsHandshake detail => "TLS handshake failed: " ++ detail
  | .unreachable => ""

/-- Whether the answer took too long. -/
def isTimeout (e : TransportError) : Bool := e = .timeout

end TransportError

end Courier
