import Courier.Bytes
import Courier.Net.Address
import Courier.Text.Case

/-!
# `Courier.Url.Host`: hosts of URLs

A host is a domain in lower case or an address. An address of six groups stands in brackets. A
host whose last label is a number is an address of four bytes: up to four numbers, decimal, octal
or hexadecimal, of which the last fills the bytes that the others leave.
-/

set_option autoImplicit false

namespace Courier

/-- Why a text is no URL. -/
inductive UrlError where
  /-- It does not begin with a scheme. -/
  | relative
  | emptyHost
  | invalidPort
  | invalidIpv4
  | invalidIpv6
  | invalidDomain
  /-- A host of a scheme unknown to the web has a character that no host has. -/
  | invalidHostCharacter
deriving DecidableEq

/-- The text of an error. -/
def UrlError.message : UrlError → String
  | .relative => "relative URL without a base"
  | .emptyHost => "empty host"
  | .invalidPort => "invalid port number"
  | .invalidIpv4 => "invalid IPv4 address"
  | .invalidIpv6 => "invalid IPv6 address"
  | .invalidDomain => "invalid international domain name"
  | .invalidHostCharacter => "invalid domain character"

namespace Url

/-- A host. -/
inductive Host where
  | domain (name : String)
  | ipv4 (address : Net.Ipv4)
  | ipv6 (address : Net.Ipv6)
deriving DecidableEq

namespace Host

/-- The text of a host as it stands in a URL. -/
def text : Host → String
  | .domain name => name
  | .ipv4 a => a.text
  | .ipv6 a => "[" ++ a.shortText ++ "]"

/-- Whether a host is the machine itself. -/
def isLoopback : Host → Bool
  | .domain name => name = "localhost"
  | .ipv4 a => a.isLoopback
  | .ipv6 a => a.isLoopback

end Host

/-- The bytes of a text in which escapes stand for bytes. -/
def unescape : Bytes → Bytes
  | [] => []
  | 0x25 :: a :: b :: cs =>
    match Net.digit? 16 (Char.ofNat a.toNat), Net.digit? 16 (Char.ofNat b.toNat) with
    | some x, some y => UInt8.ofNat (x * 16 + y) :: unescape cs
    | _, _ => 0x25 :: unescape (a :: b :: cs)
  | c :: cs => c :: unescape cs
termination_by cs => cs.length

/-- Whether no host has this character. -/
def isForbiddenInHost (c : Char) : Bool := c = '\x00' || "\t\n\r #/:<>?@[\\]^|".contains c

/-- Whether no domain has this character. -/
def isForbiddenInDomain (c : Char) : Bool :=
  isForbiddenInHost c || c < '\x20' || c = '%' || c = '\x7f'

/-- The number that a label is, if it has the form of one. Its value is unknown if it does not
fit into 32 bits. -/
def labelNumber? (label : List Char) : Option (Option Nat) :=
  let read (base : Nat) (cs : List Char) : Option (Option Nat) :=
    if cs = [] then some (some 0)
    else (Net.number? base cs).map fun n => if n < UInt32.size then some n else none
  match label with
  | [] => none
  | '0' :: 'x' :: cs => read 16 cs
  | '0' :: 'X' :: cs => read 16 cs
  | '0' :: c :: cs => read 8 (c :: cs)
  | cs => read 10 cs

/-- The labels of a domain, without an empty one at the end. -/
def labels (domain : List Char) : List (List Char) :=
  let parts := Net.fields '.' domain
  if parts.length > 1 ∧ parts.getLast? = some [] then parts.dropLast else parts

/-- Whether a domain is meant as an address of four bytes. -/
def endsInNumber (domain : List Char) : Bool :=
  match (labels domain).getLast? with
  | none => false
  | some label => !label.isEmpty && (label.all Char.isDigit || (labelNumber? label).isSome)

/-- The address that labels stand for. -/
def addressOfLabels (parts : List (List Char)) : Except UrlError Net.Ipv4 :=
  match parts.mapM fun p => (labelNumber? p).join with
  | none => .error .invalidIpv4
  | some numbers =>
    let front := numbers.dropLast
    let last := numbers.getLast?.getD 0
    if numbers.length > 4 ∨ front.any (· > 255) ∨ last ≥ Bytes.capacity (4 - front.length) then
      .error .invalidIpv4
    else
      let high := front.foldl (fun n b => n * 256 + b) 0
      .ok (.ofNat (high * Bytes.capacity (4 - front.length) + last))

/-- Reads the host of a URL whose scheme belongs to the web. -/
def Host.read (cs : List Char) : Except UrlError Host :=
  match cs with
  | '[' :: rest =>
    if rest.getLast? = some ']' then
      match Net.Ipv6.read? rest.dropLast with
      | some a => .ok (.ipv6 a)
      | none => .error .invalidIpv6
    else .error .invalidIpv6
  | cs =>
    match Bytes.toString? (unescape (Bytes.ofString (String.ofList cs))) with
    | none => .error .invalidDomain
    | some name =>
      let domain := (Text.lowercase name).toList
      if domain.any isForbiddenInDomain then .error .invalidDomain
      else if domain.isEmpty then .error .emptyHost
      else if endsInNumber domain then (addressOfLabels (labels domain)).map .ipv4
      else .ok (.domain (String.ofList domain))

/-- Reads the host of a URL of any other scheme, which is kept as it is. -/
def Host.readOpaque (cs : List Char) : Except UrlError Host :=
  match cs with
  | '[' :: rest =>
    if rest.getLast? = some ']' then
      match Net.Ipv6.read? rest.dropLast with
      | some a => .ok (.ipv6 a)
      | none => .error .invalidIpv6
    else .error .invalidIpv6
  | cs =>
    if cs.any isForbiddenInHost then .error .invalidHostCharacter
    else .ok (.domain (String.ofList cs))

end Url

end Courier
