import Courier.Bytes
import Courier.Text.Hex
import Courier.Url.Host

/-!
# `Courier.Url`: URLs

A URL as a browser reads it, as far as cookies need to know it: its scheme, its host and its path.
The path of a URL with a host is in its normal form: without segments of dots, and with escapes
for whatever must not stand in it.
-/

set_option autoImplicit false

namespace Courier

/-- The scheme, the host and the path of a URL. -/
structure Url where
  /-- In lower case. -/
  scheme : String
  host? : Option Url.Host
  path : String
  /-- Whether the path is no list of segments. -/
  opaquePath : Bool
deriving DecidableEq

namespace Url

/-- Whether a scheme belongs to the web, where a host is required and a backslash is a slash. -/
def isWebScheme (scheme : String) : Bool := ["http", "https", "ws", "wss", "ftp"].contains scheme

/-- The text without the characters that are not part of a URL: blanks and control characters at
its ends, tabs and ends of lines anywhere. -/
def clean (cs : List Char) : List Char :=
  let trimmed := ((cs.dropWhile (· ≤ ' ')).reverse.dropWhile (· ≤ ' ')).reverse
  trimmed.filter fun c => c ≠ '\t' && c ≠ '\n' && c ≠ '\r'

/-- The scheme at the start of a text, in lower case, and what follows its colon. -/
def splitScheme? (cs : List Char) : Option (String × List Char) :=
  match cs.span fun c => c.isAlphanum || "+-.".contains c with
  | (c :: scheme, ':' :: rest) =>
    if c.isAlpha then some (String.ofList ((c :: scheme).map Char.toLower), rest) else none
  | _ => none

/-! ### The path -/

/-- Whether a byte has to be escaped in a path. -/
def isEscapedInPath (b : UInt8) : Bool :=
  b ≤ 0x20 || b ≥ 0x7f || [0x22, 0x23, 0x3c, 0x3e, 0x3f, 0x60, 0x7b, 0x7d].contains b

/-- The text of bytes with escapes where they are needed. -/
def escape (isEscaped : UInt8 → Bool) (cs : List Char) : List Char :=
  (Bytes.ofString (String.ofList cs)).flatMap fun b =>
    if isEscaped b then '%' :: (Text.Hex.encode [b]).map Char.toUpper else [Char.ofNat b.toNat]

/-- A segment with its escaped dots read as dots. -/
def dots (segment : List Char) : List Char :=
  match segment with
  | '%' :: '2' :: 'e' :: cs => '.' :: dots cs
  | '%' :: '2' :: 'E' :: cs => '.' :: dots cs
  | c :: cs => c :: dots cs
  | [] => []
termination_by segment.length

/-- The segments of a path without those of dots: one dot stays at the segment, two go back by
one. -/
def withoutDots (done : List (List Char)) : List (List Char) → List (List Char)
  | [] => done
  | segment :: rest =>
    if dots segment = ['.', '.'] then
      withoutDots (if rest.isEmpty then done.dropLast ++ [[]] else done.dropLast) rest
    else if dots segment = ['.'] then
      withoutDots (if rest.isEmpty then done ++ [[]] else done) rest
    else withoutDots (done ++ [segment]) rest

/-- The normal form of a path. -/
def normalPath (web : Bool) (cs : List Char) : String :=
  let cs := if web then cs.map fun c => if c = '\\' then '/' else c else cs
  let cs := match cs with
    | '/' :: cs => cs
    | cs => cs
  let segments := withoutDots [] ((Net.fields '/' cs).map (escape isEscapedInPath))
  String.ofList (segments.flatMap ('/' :: ·))

/-- The text in front of a query and a fragment. -/
def beforeQuery (cs : List Char) : List Char := cs.takeWhile fun c => c ≠ '?' && c ≠ '#'

/-! ### The authority -/

/-- Whether a character stands behind every authority. -/
def endsAuthority (web : Bool) (c : Char) : Bool :=
  c = '/' || c = '?' || c = '#' || (web && c = '\\')

/-- The host of an authority, and what follows it. Colons in brackets belong to the host. -/
def splitPort (bracketed : Bool) : List Char → List Char × List Char
  | [] => ([], [])
  | c :: cs =>
    if c = ':' ∧ !bracketed then ([], c :: cs)
    else
      let bracketed := if c = '[' then true else if c = ']' then false else bracketed
      let (host, rest) := splitPort bracketed cs
      (c :: host, rest)

/-- Checks the port behind a host. -/
def checkPort : List Char → Except UrlError Unit
  | [] => .ok ()
  | _ :: digits =>
    if digits.all Char.isDigit ∧ (Net.number? 10 digits).any (· < UInt16.size) then .ok ()
    else .error .invalidPort

/-- The host that an authority names, if it is not empty. -/
def hostOfAuthority (web : Bool) (authority : List Char) :
    Except UrlError (Option Host) :=
  let named := (authority.reverse.takeWhile (· ≠ '@')).reverse
  let (host, port) := splitPort false named
  if host.isEmpty then
    if web ∨ !port.isEmpty ∨ named.length + 1 < authority.length then .error .emptyHost
    else .ok none
  else
    match (if web then Host.read host else Host.readOpaque host) with
    | .error e => .error e
    | .ok h => (checkPort port).map fun _ => some h

/-- The URL of a scheme, with an authority at the start of the text. -/
def ofAuthority (scheme : String) (cs : List Char) : Except UrlError Url :=
  let web := isWebScheme scheme
  let (authority, rest) := cs.span (!endsAuthority web ·)
  (hostOfAuthority web authority).map fun host? =>
    let path := beforeQuery rest
    ⟨scheme, host?, if path.isEmpty ∧ !web then "" else normalPath web path, false⟩

/-- Reads a URL. The slashes in front of the authority can be missing or too many if the scheme
belongs to the web. -/
def read (text : String) : Except UrlError Url :=
  match splitScheme? (clean text.toList) with
  | none => .error .relative
  | some (scheme, rest) =>
    if isWebScheme scheme then
      ofAuthority scheme (rest.dropWhile fun c => c = '/' || c = '\\')
    else
      match rest with
      | '/' :: '/' :: rest => ofAuthority scheme rest
      | '/' :: _ => .ok ⟨scheme, none, normalPath false (beforeQuery rest), false⟩
      | _ =>
        .ok ⟨scheme, none,
          String.ofList (escape (fun b => b < 0x20 || b ≥ 0x7f) (beforeQuery rest)), true⟩

/-- Whether a scheme speaks HTTP. -/
def speaksHttp (u : Url) : Bool := u.scheme.startsWith "http"

/-- Whether what is sent to a URL stays secret: it is encrypted, or does not leave the machine. -/
def isSecure (u : Url) : Bool := u.scheme = "https" || u.host?.any Host.isLoopback

end Url

end Courier
