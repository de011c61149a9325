/-!
# `Courier.Http.Uri`: targets of requests

A target is absolute, with a scheme and an authority, or only an authority, or only a path. Only
the path and the query are kept of what follows the authority: a fragment stays with the client.
The text is looked at byte by byte, so of two faults the one that stands first counts.

The authority of an absolute target is not empty. So is that of a target without a scheme, unless
its text begins with a slash.
-/

set_option autoImplicit false

namespace Courier.Http

/-- Why a text is no target. -/
inductive UriError where
  | empty
  | tooLong
  | schemeTooLong
  | invalidCharacter
  | invalidAuthority
  | invalidFormat
deriving DecidableEq

/-- The text of an error. -/
def UriError.message : UriError → String
  | .empty => "empty string"
  | .tooLong => "uri too long"
  | .schemeTooLong => "scheme too long"
  | .invalidCharacter => "invalid uri character"
  | .invalidAuthority => "invalid authority"
  | .invalidFormat => "invalid format"

/-- A target. -/
structure Uri where
  scheme? : Option String := none
  /-- Empty if there is none. -/
  authority : String := ""
  /-- The path and the query; empty if there is neither. -/
  pathAndQuery : String := ""
deriving DecidableEq, Inhabited

namespace Uri

/-! ### The scheme -/

/-- Whether a character can stand in a scheme. -/
def isSchemeCharacter (c : Char) : Bool := c.isAlphanum || "+-.~".contains c

/-- The scheme of a text, and what follows the colon and the two slashes behind it. The scheme of
the web is known in any case of its letters. -/
def splitScheme (cs : List Char) : Except UriError (Option String × List Char) :=
  let lower (n : Nat) : List Char := (cs.take n).map Char.toLower
  if lower 7 = "http://".toList then .ok (some "http", cs.drop 7)
  else if lower 8 = "https://".toList then .ok (some "https", cs.drop 8)
  else
    match cs.span isSchemeCharacter with
    | (scheme, ':' :: '/' :: '/' :: rest) =>
      if scheme.isEmpty ∧ rest.isEmpty then .ok (none, cs)
      else if scheme.length > 64 then .error .schemeTooLong
      else .ok (some (String.ofList scheme), rest)
    | _ => .ok (none, cs)

/-! ### The authority -/

/-- Whether a character can stand in an authority and means nothing else there. -/
def isPlain (c : Char) : Bool := c.isAlphanum || "!$&'()*+,-.;=_~".contains c

/-- What is known of the start of an authority. -/
structure Survey where
  /-- The colons since the last at sign or closing bracket. -/
  colons : Nat := 0
  opened : Bool := false
  closed : Bool := false
  /-- Whether there is a percent sign since the last at sign or closing bracket. -/
  percent : Bool := false
  /-- Whether the last character is an at sign. -/
  endsInAt : Bool := false
deriving DecidableEq

/-- What is known after one more character. -/
def Survey.step (s : Survey) (c : Char) : Except UriError Survey :=
  let s' := { s with endsInAt := false }
  if c = ':' then
    if s.colons ≥ 8 then .error .invalidAuthority else .ok { s' with colons := s.colons + 1 }
  else if c = '[' then
    if s.percent ∨ s.opened then .error .invalidAuthority else .ok { s' with opened := true }
  else if c = ']' then
    if !s.opened ∨ s.closed then .error .invalidAuthority
    else .ok { s' with closed := true, colons := 0, percent := false }
  else if c = '@' then .ok { s' with colons := 0, percent := false, endsInAt := true }
  else if c = '%' then .ok { s' with percent := true }
  else if isPlain c then .ok s'
  else .error .invalidCharacter

/-- Whether an authority can end here. -/
def Survey.isComplete (s : Survey) : Bool :=
  s.opened = s.closed && s.colons ≤ 1 && !s.endsInAt && !s.percent

/-- Whether a character stands behind every authority. -/
def endsAuthority (c : Char) : Bool := c = '/' || c = '?' || c = '#'

/-- The authority at the start of a text, which can be empty, and what follows it. -/
def splitAuthority (cs : List Char) : Except UriError (List Char × List Char) :=
  let (authority, rest) := cs.span (!endsAuthority ·)
  match authority.foldlM Survey.step {} with
  | .error e => .error e
  | .ok s => if s.isComplete then .ok (authority, rest) else .error .invalidAuthority

/-! ### The path and the query -/

/-- Whether a character can stand in a path. Some that should be escaped are let through. -/
def isPathCharacter (c : Char) : Bool :=
  c > '\x20' && c ≠ '#' && c ≠ '<' && c ≠ '>' && c ≠ '?' && c ≠ '\x60'

/-- Whether a character can stand in a query. -/
def isQueryCharacter (c : Char) : Bool :=
  c > '\x20' && c ≠ '"' && c ≠ '#' && c ≠ '<' && c ≠ '>'

/-- What follows a path: nothing, a query, or a fragment, which is dropped. -/
def readQuery : List Char → Except UriError (List Char)
  | '?' :: query =>
    match query.span isQueryCharacter with
    | (query, []) => .ok ('?' :: query)
    | (query, '#' :: _) => .ok ('?' :: query)
    | _ => .error .invalidCharacter
  | [] => .ok []
  | '#' :: _ => .ok []
  | _ => .error .invalidCharacter

/-- The path and the query of a text. -/
def readPath (cs : List Char) : Except UriError String :=
  let (path, rest) := cs.span isPathCharacter
  (readQuery rest).map fun query => String.ofList (path ++ query)

/-! ### The whole target -/

/-- The target that is nothing but an authority. -/
def ofAuthority (other : UriError) (cs : List Char) : Except UriError Uri :=
  match splitAuthority cs with
  | .error e => .error e
  | .ok (authority, []) => .ok { authority := String.ofList authority }
  | .ok _ => .error other

/-- The target behind a scheme. -/
def ofSchemeAndRest (scheme : String) (rest : List Char) : Except UriError Uri :=
  if rest.isEmpty then .error .empty
  else
    match splitAuthority rest with
    | .error e => .error e
    | .ok ([], _) => .error .invalidFormat
    | .ok (authority, path) =>
      (readPath path).map fun path => ⟨some scheme, String.ofList authority, path⟩

/-- Reads a target of at most 65534 bytes. -/
def read (text : String) : Except UriError Uri :=
  if text.utf8ByteSize > 65534 then .error .tooLong
  else
    match text.toList with
    | [] => .error .empty
    | ['*'] => .ok { pathAndQuery := "*" }
    | '/' :: cs => (readPath ('/' :: cs)).map fun path => { pathAndQuery := path }
    | [c] => ofAuthority .invalidCharacter [c]
    | cs =>
      match splitScheme cs with
      | .error e => .error e
      | .ok (none, cs) => ofAuthority .invalidFormat cs
      | .ok (some scheme, rest) => ofSchemeAndRest scheme rest

/-! ### The parts of the authority -/

/-- What follows the last at sign of an authority. -/
def hostAndPort (authority : List Char) : List Char :=
  (authority.reverse.takeWhile (· ≠ '@')).reverse

/-- The host of a target that has an authority. Brackets belong to the host. -/
def host? (u : Uri) : Option String :=
  if u.authority.isEmpty then none
  else
    match hostAndPort u.authority.toList with
    | '[' :: rest => some (String.ofList ('[' :: rest.takeWhile (· ≠ ']') ++ [']']))
    | cs => some (String.ofList (cs.takeWhile (· ≠ ':')))

/-- The number of a port, in front of which a plus sign can stand. -/
def port? (cs : List Char) : Option Nat :=
  let ds := match cs with
    | '+' :: ds => ds
    | ds => ds
  if ds.isEmpty ∨ !ds.all Char.isDigit then none
  else (some (ds.foldl (fun n c => n * 10 + (c.toNat - '0'.toNat)) 0)).filter (· < UInt16.size)

/-- The port that a target names: the number behind the last colon of its authority. -/
def portNumber? (u : Uri) : Option Nat :=
  let cs := u.authority.toList
  if cs.contains ':' then port? (cs.reverse.takeWhile (· ≠ ':')).reverse else none

/-- What a request asks the server for: the path and the query, or a slash. -/
def target (u : Uri) : String := if u.pathAndQuery.isEmpty then "/" else u.pathAndQuery

/-- The text of a target without an authority. -/
def text (u : Uri) : String :=
  (match u.scheme? with
    | some scheme => scheme ++ "://"
    | none => "") ++ u.authority ++ u.pathAndQuery

end Uri

end Courier.Http
