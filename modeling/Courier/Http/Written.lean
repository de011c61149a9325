import Courier.Http.Message
import Courier.Http.Uri

/-!
# `Courier.Http.Written`: requests as they are written

A request is written as a line with its method and target, its headers, and its body. The first
headers are those of the client itself. Headers of one name stand together where the first of
them stood.
-/

set_option autoImplicit false

namespace Courier.Http

/-- A request as it is written. -/
structure Written where
  method : Method
  target : String
  headers : List (String × String)
  body : Bytes
deriving DecidableEq

/-- Why a request cannot be written. -/
inductive WritingError where
  | target (cause : UriError)
  | headerName
  | headerValue
deriving DecidableEq

/-- The text of an error. -/
def WritingError.message : WritingError → String
  | .target cause => cause.message
  | .headerName => "invalid HTTP header name"
  | .headerValue => "failed to parse header value"

namespace Written

/-- Whether a character can stand in the name of a header. -/
def isTokenCharacter (c : Char) : Bool := c.isAlphanum || "!#$%&'*+-.^_\x60|~".contains c

/-- Whether a character can stand in the value of a header. -/
def isValueCharacter (c : Char) : Bool := c = '\t' || (c ≥ ' ' && c ≠ '\x7f')

/-- A header with its name in lower case. -/
def header (name value : String) : Except WritingError (String × String) :=
  if name.isEmpty ∨ !name.all isTokenCharacter then .error .headerName
  else if !value.all isValueCharacter then .error .headerValue
  else .ok (String.ofList (name.toList.map lowerChar), value)

/-- Puts a header behind the last one of its name, or at the end. -/
def place (h : String × String) : List (String × String) → List (String × String)
  | [] => [h]
  | g :: gs =>
    if g.1 = h.1 ∧ !gs.any (·.1 = h.1) then g :: h :: gs else g :: place h gs

/-- The headers with those of one name together. -/
def grouped (hs : List (String × String)) : List (String × String) :=
  hs.foldl (fun placed h => place h placed) []

/-- The headers that say how long a body is. Nothing is said of an empty one. -/
def withLength (body : Bytes) (hs : List (String × String)) : List (String × String) :=
  if body.isEmpty then hs.filter (·.1 ≠ "transfer-encoding")
  else if hs.any fun h => h.1 = "content-length" || h.1 = "transfer-encoding" then hs
  else hs ++ [("content-length", toString body.length)]

/-- The host of a target, with its port if it names one. -/
def hostHeader (u : Uri) : String :=
  let host := u.host?.getD ""
  match u.portNumber? with
  | some port => host ++ ":" ++ toString port
  | none => host

/-- A request to a target as it is written. -/
def ofRequest (userAgent : String) (cookies? : Option String) (u : Uri) (r : Request) :
    Except WritingError Written :=
  match Uri.read u.target with
  | .error cause => .error (.target cause)
  | .ok target => do
    let own ← [("host", hostHeader u), ("user-agent", userAgent)].mapM fun h => header h.1 h.2
    let given ← r.headers.mapM fun h => header h.1 h.2
    let cookies ← (cookies?.map (("cookie", ·))).toList.mapM fun h => header h.1 h.2
    let body := r.body?.getD []
    return ⟨r.method, target.target, withLength body (grouped (own ++ given ++ cookies)), body⟩

/-- The first line of a request. -/
def line (w : Written) : String := w.method.name ++ " " ++ w.target ++ " HTTP/1.1"

/-- The bytes of a request. -/
def bytes (w : Written) : Bytes :=
  Bytes.ofString (w.line ++ "\r\n"
      ++ String.join (w.headers.map fun h => h.1 ++ ": " ++ h.2 ++ "\r\n") ++ "\r\n")
    ++ w.body

end Written

end Courier.Http
