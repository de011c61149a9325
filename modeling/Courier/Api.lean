import Courier.Call
import Courier.Codec
import Courier.Http.Message
import Courier.QueryEncoding

/-!
# `Courier.Api`: where the API is, and what it is asked

The settings of an API: its base URL, the endpoint that logs in, and how payloads are written in
a query. Endpoints are put right behind the normalised base URL, which ends in one slash.

A call becomes a request. A payload that is a map names the active site, unless that is the default
one. The bytes of the payload travel in the query of a `get`, unless its endpoint has a query of its
own, and in the body of any other method.
-/

set_option autoImplicit false

namespace Courier

/-- The settings of an API. -/
structure Api where
  baseUrl : String := "http://localhost:8080/api/"
  authEndpoint : String := "auth"
  encoding : QueryEncoding := .hex
deriving DecidableEq, Inhabited

namespace Api

/-- A text without the slashes at its end. -/
def trimSlashes (cs : List Char) : List Char := (cs.reverse.dropWhile (· = '/')).reverse

/-- The base URL with exactly one slash at its end. -/
def normalizedBaseUrl (a : Api) : String := String.ofList (trimSlashes a.baseUrl.toList ++ ['/'])

/-- The type of a body. -/
def contentType : String := "application/x-msgpack"

/-- The payload as it is sent on behalf of a site. -/
def withSite (site? : Option Int64) (payload : Value) : Value :=
  match site? with
  | none => payload
  | some id => (payload.insert? "site" (.int id)).getD payload

/-- The headers of every request. -/
def commonHeaders : List (String × String) := [("Cache-Control", "no-store")]

/-- The request with a payload, given as its bytes, if there is one. -/
def carry (a : Api) (call : Call) (bytes? : Option Bytes) : Http.Request :=
  let url := a.normalizedBaseUrl ++ call.endpoint
  match bytes? with
  | none => ⟨call.method, url, commonHeaders, none⟩
  | some bytes =>
    if call.method.inQuery then
      if call.endpoint.contains '?' then ⟨call.method, url, commonHeaders, none⟩
      else ⟨call.method, url ++ "?data=" ++ a.encoding.encode bytes, commonHeaders, none⟩
    else ⟨call.method, url, commonHeaders ++ [("Content-Type", contentType)], some bytes⟩

/-- The request of a call on behalf of a site. The payload must have bytes, even one that is
not carried. -/
def request (a : Api) (codec : Codec) (site? : Option Int64) (call : Call) :
    Except WireError Http.Request :=
  match call.payload? with
  | none => .ok (a.carry call none)
  | some payload =>
    match codec.encode (withSite site? payload) with
    | .ok bytes => .ok (a.carry call (some bytes))
    | .error e => .error e

end Api

end Courier
