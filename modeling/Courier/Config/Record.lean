import Courier.Config
import Courier.Yaml.Node
import Courier.Yaml.Printer

/-!
# `Courier.Config.Record`: configurations as YAML

A configuration is stored as a mapping of four sections, each a mapping of entries. Sections and
entries that are left out keep their defaults, unknown ones are passed over, and one that stands
twice is a fault.
-/

set_option autoImplicit false

namespace Courier.Config

open Yaml (Node)

/-- The text of a scalar. -/
def text? : Node → Option String
  | .scalar s _ _ => some s
  | _ => none

/-- The text of a scalar that may be left out. With a tag it is not left out, even if it is empty,
unless the tag says that it stands for nothing. -/
def optional? : Node → Option (Option String)
  | .scalar s .plain none => some (if s.isEmpty || Yaml.Plain.isNull s then none else some s)
  | .scalar s .plain (some tag) =>
    if tag ≠ Yaml.Tag.core "null" then some (some s)
    else if Yaml.Plain.isNull s then some none
    else none
  | .scalar s _ _ => some (some s)
  | _ => none

/-- What a scalar of some kind stands for. It is written plainly, or as lines that are kept with
the tag of its kind. -/
def ofKind? {α : Type} (kind : String) (read : String → Option α) : Node → Option α
  | .scalar s .plain _ => read s
  | .scalar s .literal (some tag) => if tag = Yaml.Tag.core kind then read s else none
  | _ => none

/-- The encoding with exactly this name. The name can also be a tag, of nothing. -/
def encoding? (n : Node) : Option QueryEncoding :=
  let named (s : String) := [QueryEncoding.hex, .base32].find? (·.name = s)
  match n with
  | .scalar s _ none => named s
  | .scalar s style (some tag) =>
    let name? := Bytes.toString? (if tag.head? = some 0x21 then tag.tail else tag)
    match name? with
    | none => named s
    | some name => if style = .plain && (s.isEmpty || Yaml.Plain.isNull s) then named name else none
  | _ => none

/-- Reads the entries of a mapping one after another. `field key` is what the value of a known
key makes of what has been read so far. -/
def readEntries {α : Type} (field : String → Option (Node → α → Option α)) :
    (seen : List String) → α → List (Node × Node) → Option α
  | _, x, [] => some x
  | seen, x, (k, v) :: rest =>
    match text? k with
    | none => none
    | some key =>
      match field key with
      | none => readEntries field seen x rest
      | some set =>
        if seen.contains key then none
        else (set v x).bind fun x => readEntries field (key :: seen) x rest

/-- Reads a mapping, which may be left out. -/
def readMapping {α : Type} (field : String → Option (Node → α → Option α)) (default : α) :
    Node → Option α
  | .mapping entries => readEntries field [] default entries
  | .scalar s style _ => if s.isEmpty && style = .plain then some default else none
  | .sequence _ => none

/-- The entries of the settings of an API. -/
def apiField : String → Option (Node → Api → Option Api)
  | "base_url" => some fun n a => (text? n).map fun s => { a with baseUrl := s }
  | "auth_endpoint" => some fun n a => (text? n).map fun s => { a with authEndpoint := s }
  | "query_encoding" => some fun n a => (encoding? n).map fun e => { a with encoding := e }
  | _ => none

/-- The entries of the settings of HTTP. -/
def httpField : String → Option (Node → HttpSettings → Option HttpSettings)
  | "connect_timeout_secs" =>
    some fun n h => (ofKind? "int" Yaml.Plain.uint64? n).map fun t => { h with connectTimeout := t }
  | "request_timeout_secs" =>
    some fun n h => (ofKind? "int" Yaml.Plain.uint64? n).map fun t => { h with requestTimeout := t }
  | "user_agent" => some fun n h => (text? n).map fun s => { h with userAgent := s }
  | _ => none

/-- The entries of the settings of TLS. -/
def tlsField : String → Option (Node → TlsSettings → Option TlsSettings)
  | "ca_cert_path" => some fun n t => (optional? n).map fun s => { t with caCert? := s }
  | "client_cert_path" => some fun n t => (optional? n).map fun s => { t with clientCert? := s }
  | "client_key_path" => some fun n t => (optional? n).map fun s => { t with clientKey? := s }
  | "insecure" => some fun n t =>
    (ofKind? "bool" Yaml.Plain.bool? n).map fun b => { t with insecure := b }
  | "server_name" => some fun n t => (optional? n).map fun s => { t with serverName? := s }
  | _ => none

/-- The entries of the settings of the site. -/
def siteField : String → Option (Node → Int64 → Option Int64)
  | "id" => some fun n _ => ofKind? "int" Yaml.Plain.int64? n
  | _ => none

/-- The sections of a configuration. -/
def sectionField : String → Option (Node → Config → Option Config)
  | "api" => some fun n c => (readMapping apiField {} n).map fun a => { c with api := a }
  | "http" => some fun n c => (readMapping httpField {} n).map fun h => { c with http := h }
  | "tls" => some fun n c => (readMapping tlsField {} n).map fun t => { c with tls := t }
  | "site" => some fun n c => (readMapping siteField 0 n).map fun s => { c with siteId := s }
  | _ => none

/-- The configuration that a text in YAML holds. -/
def ofYaml? (text : String) : Option Config :=
  (Node.ofText? text).bind (readMapping sectionField {})

open Yaml.Printer in
/-- The text in YAML that holds a configuration. -/
def toYaml (c : Config) : String :=
  let optional : Option String → Leaf
    | none => .bare "null"
    | some s => .text s
  record [
    ("api", [
      ("base_url", .text c.api.baseUrl),
      ("auth_endpoint", .text c.api.authEndpoint),
      ("query_encoding", .text c.api.encoding.name)]),
    ("http", [
      ("connect_timeout_secs", .bare (toString c.http.connectTimeout.toNat)),
      ("request_timeout_secs", .bare (toString c.http.requestTimeout.toNat)),
      ("user_agent", .text c.http.userAgent)]),
    ("tls", [
      ("ca_cert_path", optional c.tls.caCert?),
      ("client_cert_path", optional c.tls.clientCert?),
      ("client_key_path", optional c.tls.clientKey?),
      ("insecure", .bare (if c.tls.insecure then "true" else "false")),
      ("server_name", optional c.tls.serverName?)]),
    ("site", [("id", .bare (toString c.siteId.toInt))])]

end Courier.Config
