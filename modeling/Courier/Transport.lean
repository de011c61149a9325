import Courier.Cookie.Jar
import Courier.Http.Arrival
import Courier.Http.Written
import Courier.Tls.Connector
import Courier.Tls.ServerName

/-!
# `Courier.Transport`: from a request to its answer

A transport sends each request on a connection of its own, and reminds servers of their cookies.
A request is carried out in three steps, between which the network acts: `Transport.route` says
where to connect, `Transport.compose` what to write there, and `Transport.receive` what the bytes
that come back are; `Transport.interrupt` says what they are if they break off. `Transport.exchange`
joins them, for any network whose peers hang up in the end.

The cookies of an answer are recorded as soon as its head has come, even if its body is cut short.
-/

set_option autoImplicit false

namespace Courier

/-- What sends requests. -/
structure Transport where
  http : HttpSettings := {}
  tls : TlsSettings := {}
  /-- What is needed for encrypted connections, if the API asks for them. -/
  connector? : Option Tls.Connector := none
  jar : Cookie.Jar := []
deriving DecidableEq

/-- Where a request goes. -/
structure Route where
  uri : Http.Uri
  url : Url
  host : String
  port : Nat
  /-- The peer of an encrypted connection. -/
  peer? : Option Tls.ServerName
deriving DecidableEq

/-- What a network does: it connects a route, or tells why it cannot. On the connection it answers
what is written with some bytes, and hangs up. -/
abbrev Network := Route → Except TransportError (Http.Written → Bytes)

namespace Transport

/-- Whether the API asks for encrypted connections. -/
def isEncrypted (a : Api) : Bool := "https://".toList.isPrefixOf a.baseUrl.toList

/-- The transport of a configuration. -/
def ofConfig (disk : Disk) (c : Config) : Except Tls.Fault Transport :=
  if isEncrypted c.api then
    (Tls.Connector.ofSettings disk c.tls).map fun connector => ⟨c.http, c.tls, some connector, []⟩
  else .ok ⟨c.http, c.tls, none, []⟩

/-! ### Where to connect -/

/-- Why a URL with another scheme leads nowhere. -/
def unsupported (scheme? : Option String) : TransportError :=
  .invalidUrl ("unsupported scheme: " ++
    match scheme? with
    | some scheme => "Some(\"" ++ scheme ++ "\")"
    | none => "None")

/-- The route to the host of a target. -/
def routeTo (t : Transport) (uri : Http.Uri) (url : Url) (host : String) :
    Except TransportError Route :=
  if uri.scheme? = some "http" then .ok ⟨uri, url, host, uri.portNumber?.getD 80, none⟩
  else if uri.scheme? = some "https" then
    match t.connector? with
    | none => .error (.tlsConfig "https URL without TLS connector")
    | some _ =>
      (Tls.ServerName.ofHost t.tls host).map fun peer =>
        ⟨uri, url, host, uri.portNumber?.getD 443, some peer⟩
  else .error (unsupported uri.scheme?)

/-- The route of a request. -/
def route (t : Transport) (r : Http.Request) : Except TransportError Route :=
  match Http.Uri.read r.url with
  | .error cause => .error (.invalidUrl (r.url ++ ": " ++ cause.message))
  | .ok uri =>
    match Url.read r.url with
    | .error cause => .error (.invalidUrl (r.url ++ ": " ++ cause.message))
    | .ok url =>
      match uri.host? with
      | none => .error (.invalidUrl ("missing host: " ++ uri.text))
      | some host => t.routeTo uri url host

/-! ### What to write -/

/-- The request as it is written on a connection of a route. -/
def compose (t : Transport) (now : Int) (route : Route) (r : Http.Request) :
    Except TransportError Http.Written :=
  match Http.Written.ofRequest t.http.userAgent (t.jar.header? now route.url) route.uri r with
  | .error cause => .error (.http cause.message)
  | .ok written => .ok written

/-! ### What comes back -/

/-- The texts with which the head of an answer sets cookies. Others cannot be read. -/
def cookieTexts (h : Http.Head) : List String :=
  (h.values "set-cookie").filterMap Http.Head.visible?

/-- The transport after the head of an answer has come from a URL. -/
def record (t : Transport) (now : Int) (url : Url) (h : Http.Head) : Transport :=
  { t with jar := (cookieTexts h).foldl (fun jar text => jar.record now url text) t.jar }

/-- Why there is no body behind a head. -/
def brokenBody : TransportError := .bodyRead "error reading a body from connection"

/-- What the bytes are that have come until the connection was closed. -/
def receive (t : Transport) (now : Int) (route : Route) (b : Bytes) :
    Transport × Except TransportError Http.Response :=
  match (Http.Arrival.of b).closed with
  | .error cause => (t, .error (.http cause.message))
  | .ok (head, body?) =>
    (t.record now route.url head,
      match body? with
      | none => .error brokenBody
      | some body => .ok ⟨head.status, body⟩)

/-- Why no more bytes come, although the peer has not hung up. -/
inductive Interruption where
  | timeout
  | failure (detail : String)
deriving DecidableEq

namespace Interruption

/-- The error in front of the head of an answer. -/
def beforeHead : Interruption → TransportError
  | .timeout => .timeout
  | .failure detail => .http detail

/-- The error behind the head of an answer. -/
def behindHead : Interruption → TransportError
  | .timeout => .timeout
  | .failure detail => .bodyRead detail

end Interruption

/-- What the bytes are that have come until they broke off. Nothing is missing if they settle what
the answer is. -/
def interrupt (t : Transport) (now : Int) (route : Route) (b : Bytes) (why : Interruption) :
    Transport × Except TransportError Http.Response :=
  if (Http.Arrival.of b).isSettled then t.receive now route b
  else
    match Http.Arrival.of b with
    | .headed head _ => (t.record now route.url head, .error why.behindHead)
    | _ => (t, .error why.beforeHead)

/-! ### All together -/

/-- What has become of a request. -/
structure Exchange where
  transport : Transport
  /-- What has been written, if it came to that. -/
  sent? : Option Http.Written
  outcome : Except TransportError Http.Response

/-- Sends a request through a network and receives its answer. -/
def exchange (t : Transport) (now : Int) (network : Network) (r : Http.Request) : Exchange :=
  match t.route r with
  | .error e => ⟨t, none, .error e⟩
  | .ok route =>
    match network route with
    | .error e => ⟨t, none, .error e⟩
    | .ok connection =>
      match t.compose now route r with
      | .error e => ⟨t, none, .error e⟩
      | .ok written =>
        let (t, outcome) := t.receive now route (connection written)
        ⟨t, some written, outcome⟩

end Transport

end Courier
