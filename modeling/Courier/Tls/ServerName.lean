import Courier.Config
import Courier.Net.Address
import Courier.TransportError

/-!
# `Courier.Tls.ServerName`: whom a client wants to talk to

The peer of an encrypted connection is named by a domain or by an address. A domain has labels of
letters, digits, underscores and hyphens, which do not stand at the ends of a label; its last label
is not a number, and a point may follow it.
-/

set_option autoImplicit false

namespace Courier.Tls

/-- The name of a peer. -/
inductive ServerName where
  | domain (name : String)
  | ipv4 (address : Net.Ipv4)
  | ipv6 (address : Net.Ipv6)
deriving DecidableEq

namespace ServerName

/-- The text of a name. -/
def text : ServerName → String
  | .domain name => name
  | .ipv4 a => a.text
  | .ipv6 a => a.text

/-- Whether a text can be a label. -/
def isLabel (cs : List Char) : Bool :=
  !cs.isEmpty && cs.length ≤ 63 && cs.all (fun c => c.isAlphanum || c = '_' || c = '-')
    && cs.head? ≠ some '-' && cs.getLast? ≠ some '-'

/-- The labels of a domain, without the empty one behind a point at its end. -/
def labels (cs : List Char) : List (List Char) :=
  let parts := Net.fields '.' cs
  if parts.length > 1 ∧ parts.getLast? = some [] then parts.dropLast else parts

/-- Whether a text is a domain. -/
def isDomain (cs : List Char) : Bool :=
  cs.length ≤ 253 && (labels cs).all isLabel && ((labels cs).getLast?.any (!·.all Char.isDigit))

/-- The peer that a text names. -/
def read? (text : String) : Option ServerName :=
  let cs := text.toList
  if isDomain cs then some (.domain text)
  else
    match Net.Ipv4.read? cs with
    | some a => some (.ipv4 a)
    | none => (Net.Ipv6.read? cs).map .ipv6

/-- The peer of a connection to a host: the one that the settings name, or else the host. -/
def ofHost (settings : TlsSettings) (host : String) : Except TransportError ServerName :=
  let name := settings.serverName?.getD host
  match read? name with
  | some peer => .ok peer
  | none => .error (.tlsConfig ("invalid server name: " ++ name))

end ServerName

end Courier.Tls
