import Courier.CommandLine
import Courier.Config.Record
import Courier.Text.Case

/-!
# `Courier.Config.Layers`: where the configuration comes from

A configuration is built in layers: the defaults, the file, the environment, the command line. A
layer replaces what it has a usable word for and leaves the rest.
-/

set_option autoImplicit false

namespace Courier

/-- The variables of the environment. -/
abbrev Environment := String → Option String

namespace Environment

/-- A variable that is set and not empty. -/
def nonEmpty? (env : Environment) (name : String) : Option String :=
  (env name).filter (!·.isEmpty)

/-- The variable that names the file with the configuration. -/
def configFile? (env : Environment) : Option String := env "MAZEWIRE_CONFIG"

end Environment

namespace Config

/-- The configuration of a file. -/
def ofFile (disk : Disk) (path : String) : Except ConfigError Config :=
  match disk.readText path with
  | .error cause => .error (.file path cause)
  | .ok text =>
    match ofYaml? text with
    | none => .error (.malformed path)
    | some c => .ok c

/-- Whether a word of the environment switches something on. -/
def isOn (word : String) : Bool := word = "1" || Text.lowercase word = "true"

/-- The layer of the environment. -/
def withEnvironment (env : Environment) (c : Config) : Config where
  api := {
    baseUrl := (env.nonEmpty? "MAZEWIRE_API_URL").getD c.api.baseUrl
    authEndpoint := (env.nonEmpty? "MAZEWIRE_AUTH_ENDPOINT").getD c.api.authEndpoint
    encoding := ((env "MAZEWIRE_QUERY_ENCODING").bind fun s =>
      (QueryEncoding.parse s).toOption).getD c.api.encoding }
  http := { c.http with
    connectTimeout := ((env "MAZEWIRE_CONNECT_TIMEOUT").bind fun s =>
      (Text.readUInt64 s).toOption).getD c.http.connectTimeout
    requestTimeout := ((env "MAZEWIRE_REQUEST_TIMEOUT").bind fun s =>
      (Text.readUInt64 s).toOption).getD c.http.requestTimeout }
  tls := { c.tls with
    caCert? := (env "MAZEWIRE_CA_CERT").or c.tls.caCert?
    clientCert? := (env "MAZEWIRE_CLIENT_CERT").or c.tls.clientCert?
    clientKey? := (env "MAZEWIRE_CLIENT_KEY").or c.tls.clientKey?
    insecure := ((env "MAZEWIRE_TLS_INSECURE").map isOn).getD c.tls.insecure }
  siteId := ((env "MAZEWIRE_SITE_ID").bind fun s => (Text.readInt64 s).toOption).getD c.siteId

/-- The configuration of the file, if there is one, and the environment, which must be valid. -/
def load (disk : Disk) (env : Environment) (path? : Option String) : Except ConfigError Config :=
  match path?.map (ofFile disk) with
  | some (.error e) => .error e
  | some (.ok c) => (c.withEnvironment env).validated
  | none => (({} : Config).withEnvironment env).validated

/-- The layer of the command line. -/
def withFlags (i : Invocation) (c : Config) : Config where
  api := { c.api with
    baseUrl := i.apiUrl?.getD c.api.baseUrl
    encoding := i.encoding?.getD c.api.encoding }
  http := c.http
  tls := { c.tls with
    caCert? := i.caCert?.or c.tls.caCert?
    insecure := c.tls.insecure || i.insecure }
  siteId := i.site?.getD c.siteId

end Config

/-- The configuration of a run of the program. -/
def Invocation.configure (i : Invocation) (disk : Disk) (env : Environment) :
    Except ConfigError Config :=
  match Config.load disk env i.config? with
  | .error e => .error e
  | .ok c => (c.withFlags i).validated

end Courier
