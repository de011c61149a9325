import Courier.Cookie.Date
import Courier.Text.Blank
import Courier.Text.Case
import Courier.Url

/-!
# `Courier.Cookie`: what a server asks to be reminded of

A cookie is a name with a value, and the scope in which it is sent back: hosts, paths, kinds of
URLs, and a span of time. `Cookie.read?` reads what a server sets. A cookie without a domain of
its own belongs to the host that set it alone; one without a path belongs to the directory of the
URL that it came from.
-/

set_option autoImplicit false

namespace Courier

/-- What a server asks to be reminded of, and where. -/
structure Cookie where
  name : String
  value : String
  domain : String
  /-- Whether hosts below the domain are left out. -/
  hostOnly : Bool
  path : String
  /-- Whether the cookie is only sent where it stays secret. -/
  secure : Bool
  httpOnly : Bool
  /-- The second at which the cookie is gone. -/
  expires? : Option Int
deriving DecidableEq

namespace Cookie

/-! ### The text of a cookie -/

/-- A text at its first equals sign, both parts without blanks at their ends. -/
def splitPair (cs : List Char) : String × Option String :=
  match cs.span (· ≠ '=') with
  | (name, []) => (String.ofList (Text.trimChars name), none)
  | (name, _ :: value) =>
    (String.ofList (Text.trimChars name), some (String.ofList (Text.trimChars value)))

/-- What a server sets, as it is written. -/
structure Attributes where
  secure : Bool := false
  httpOnly : Bool := false
  maxAge? : Option Nat := none
  domain? : Option String := none
  path? : Option String := none
  /-- The second that the date names. -/
  expires? : Option Int := none

/-- The seconds of life that a text grants: none if it is negative, without end if it is empty. -/
def lifetime? (value : String) : Option Nat :=
  let (negative, ds) := match value.toList with
    | '-' :: ds => (true, ds)
    | ds => (false, ds)
  if !ds.all Char.isDigit then none
  else if negative then some 0
  else if ds.isEmpty then some 0x7fffffffffffffff
  else some (min (ds.foldl (fun n c => n * 10 + (c.toNat - '0'.toNat)) 0) 0x7fffffffffffffff)

/-- A domain without a point at its start. -/
def withoutPoint (domain : String) : String :=
  match domain.toList with
  | '.' :: cs => String.ofList cs
  | cs => String.ofList cs

/-- Takes in one attribute. The last one of a name counts, and an unknown one does not. -/
def Attributes.take (a : Attributes) (part : List Char) : Attributes :=
  let (name, value?) := splitPair part
  match String.ofList (name.toList.map Char.toLower), value? with
  | "secure", _ => { a with secure := true }
  | "httponly", _ => { a with httpOnly := true }
  | "max-age", some v => { a with maxAge? := (lifetime? v).or a.maxAge? }
  | "domain", some v => if v.isEmpty then a else { a with domain? := some (withoutPoint v) }
  | "path", some v => { a with path? := some v }
  | "expires", some v => { a with expires? := (Date.read? v).or a.expires? }
  | _, _ => a

/-- The name, the value and the attributes that a text sets. -/
def split? (text : String) : Option (String × String × Attributes) :=
  match Net.fields ';' text.toList with
  | [] => none
  | pair :: parts =>
    match splitPair pair with
    | (_, none) => none
    | (name, some value) =>
      if name.isEmpty then none else some (name, value, parts.foldl Attributes.take {})

/-! ### The scope of a cookie -/

/-- Whether a host belongs to a domain: it is the domain, or a name below it. -/
def isWithin (domain : String) (host : Url.Host) : Bool :=
  domain = host.text ||
    match host with
    | .domain name => ('.' :: domain.toList).isSuffixOf name.toList
    | _ => false

/-- The directory of a URL. -/
def defaultPath (url : Url) : String :=
  if url.opaquePath then "/"
  else
    match (url.path.toList.reverse.dropWhile (· ≠ '/')).tail.reverse with
    | [] => "/"
    | cs => String.ofList cs

/-- Whether a path of a request lies in the path of a cookie. -/
def pathMatches (cookiePath requestPath : List Char) : Bool :=
  cookiePath = requestPath ||
    cookiePath.isPrefixOf requestPath &&
      (cookiePath.getLast? = some '/' || (requestPath.drop cookiePath.length).head? = some '/')

/-- The domain of a cookie that comes from a URL, and whether it is the host alone. A server
cannot set a cookie for hosts to which its own does not belong. -/
def scope? (domain? : Option String) (url : Url) : Option (String × Bool) :=
  match url.host?, (domain?.map fun d => Text.lowercase (Text.trim d)).filter (!·.isEmpty) with
  | none, _ => none
  | some host, none => some (host.text, true)
  | some host, some domain =>
    if isWithin (withoutPoint domain) host then some (withoutPoint domain, false) else none

/-- When a cookie expires that is set at `now`. -/
def Attributes.expiry? (a : Attributes) (now : Int) : Option Int :=
  match a.maxAge? with
  | some seconds => some (now + seconds)
  | none => a.expires?

/-- The cookie that a text sets, when it comes from a URL. A cookie for HTTP alone is not taken
from anything else. -/
def read? (now : Int) (url : Url) (text : String) : Option Cookie := do
  let (name, value, a) ← split? text
  guard (!a.httpOnly || url.speaksHttp)
  let (domain, hostOnly) ← scope? a.domain? url
  some {
    name, value, domain, hostOnly
    path := (a.path?.filter (·.startsWith "/")).getD (defaultPath url)
    secure := a.secure
    httpOnly := a.httpOnly
    expires? := a.expiry? now }

/-- Whether a cookie is gone. -/
def isExpired (now : Int) (c : Cookie) : Bool := c.expires?.any (· ≤ now)

/-- Whether a cookie is sent to a URL. -/
def appliesTo (now : Int) (url : Url) (c : Cookie) : Bool :=
  !c.isExpired now && !url.opaquePath
    && url.host?.any (fun host =>
      if c.hostOnly then c.domain = host.text else isWithin c.domain host)
    && pathMatches c.path.toList url.path.toList
    && (!c.secure || url.isSecure) && (!c.httpOnly || url.speaksHttp)

/-- Whether two cookies take the same place. -/
def sharesPlace (a b : Cookie) : Bool :=
  a.domain = b.domain && a.path = b.path && a.name = b.name

end Cookie

end Courier
