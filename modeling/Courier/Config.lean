import Courier.Api
import Courier.Disk

/-!
# `Courier.Config`: the configuration

What the client needs to know: where the API is, how to talk HTTP and TLS, and on which site to
act first. A configuration has a default, and can be valid or not; `Config.check` finds the first
fault.
-/

set_option autoImplicit false

namespace Courier

/-- How to talk HTTP. Times are in seconds. -/
structure HttpSettings where
  connectTimeout : UInt64 := 10
  requestTimeout : UInt64 := 30
  userAgent : String := "mazewire/0.1.0"
deriving DecidableEq, Inhabited

/-- How to talk TLS. -/
structure TlsSettings where
  /-- The file with the authorities that are trusted, instead of the usual ones. -/
  caCert? : Option String := none
  /-- The files with the certificate and the key of the client. -/
  clientCert? : Option String := none
  clientKey? : Option String := none
  /-- Whether any server is trusted. -/
  insecure : Bool := false
  /-- The name of the server, if it is not the host of the URL. -/
  serverName? : Option String := none
deriving DecidableEq, Inhabited

/-- The configuration of the client. -/
structure Config where
  api : Api := {}
  http : HttpSettings := {}
  tls : TlsSettings := {}
  siteId : Int64 := 0
deriving DecidableEq, Inhabited

/-- Why a configuration is not valid. -/
inductive ConfigFault where
  | emptyBaseUrl
  /-- The base URL has neither of the two schemes. -/
  | otherScheme (baseUrl : String)
  | emptyAuthEndpoint
  | zeroTimeout
deriving DecidableEq

/-- The text of a fault. -/
def ConfigFault.message : ConfigFault → String
  | .emptyBaseUrl => "api.base_url is empty"
  | .otherScheme baseUrl =>
    "api.base_url must start with http:// or https://, got '" ++ baseUrl ++ "'"
  | .emptyAuthEndpoint => "api.auth_endpoint is empty"
  | .zeroTimeout => "http timeouts must be greater than zero"

/-- Why there is no configuration. -/
inductive ConfigError where
  | file (path : String) (cause : FileError)
  /-- The file is no YAML, or not of a configuration. -/
  | malformed (path : String)
  | invalid (fault : ConfigFault)
deriving DecidableEq

/-- The text of an error. -/
def ConfigError.message : ConfigError → String
  | .file path cause => "failed to read config file '" ++ path ++ "': " ++ cause.message
  | .malformed path => "failed to parse config file '" ++ path ++ "'"
  | .invalid fault => "configuration validation failed: " ++ fault.message

/-- Whether a URL has one of the two schemes. -/
def Api.hasScheme (url : String) : Bool :=
  "http://".toList.isPrefixOf url.toList || "https://".toList.isPrefixOf url.toList

/-- The first fault of the settings of an API. -/
def Api.check (a : Api) : Except ConfigFault Unit :=
  if a.baseUrl.isEmpty then .error .emptyBaseUrl
  else if !hasScheme a.baseUrl then .error (.otherScheme a.baseUrl)
  else if a.authEndpoint.isEmpty then .error .emptyAuthEndpoint
  else .ok ()

/-- The first fault of a configuration. -/
def Config.check (c : Config) : Except ConfigFault Unit :=
  match c.api.check with
  | .error e => .error e
  | .ok _ =>
    if c.http.connectTimeout = 0 ∨ c.http.requestTimeout = 0 then .error .zeroTimeout else .ok ()

/-- The configuration, if it is valid. -/
def Config.validated (c : Config) : Except ConfigError Config :=
  match c.check with
  | .error fault => .error (.invalid fault)
  | .ok _ => .ok c

end Courier
