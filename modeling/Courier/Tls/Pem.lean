import Courier.Text.Base64
import Courier.Text.Lossy
import Courier.Text.Quoted

/-!
# `Courier.Tls.Pem`: certificates and keys as text

A text holds sections between a line that begins and a line that ends them, which name what is
inside. The lines between are the bytes in base 64. Whatever stands outside of sections means
nothing, and neither do sections with other names.
-/

set_option autoImplicit false

namespace Courier.Tls.Pem

/-- What a section can hold. -/
inductive Kind where
  | certificate
  | publicKey
  | rsaPrivateKey
  | privateKey
  | ecPrivateKey
  | revocationList
  | certificateRequest
  | echConfig
deriving DecidableEq

/-- The name of a section. -/
def Kind.label : Kind → String
  | .certificate => "CERTIFICATE"
  | .publicKey => "PUBLIC KEY"
  | .rsaPrivateKey => "RSA PRIVATE KEY"
  | .privateKey => "PRIVATE KEY"
  | .ecPrivateKey => "EC PRIVATE KEY"
  | .revocationList => "X509 CRL"
  | .certificateRequest => "CERTIFICATE REQUEST"
  | .echConfig => "ECHCONFIG"

/-- All kinds. -/
def Kind.all : List Kind :=
  [.certificate, .publicKey, .rsaPrivateKey, .privateKey, .ecPrivateKey, .revocationList,
    .certificateRequest, .echConfig]

/-- Whether a section holds a private key. -/
def Kind.isPrivateKey (k : Kind) : Bool :=
  k = .rsaPrivateKey || k = .privateKey || k = .ecPrivateKey

/-- Why a text cannot be read. -/
inductive Fault where
  /-- The text ends in a section. -/
  | missingEnd (label : Bytes)
  /-- A line begins a section, but does not end in five hyphens. -/
  | illegalStart (line : Bytes)
  | base64 (fault : Text.Base64.Fault)
deriving DecidableEq

/-- The text of a fault. -/
def Fault.message : Fault → String
  | .missingEnd label => "section end " ++ Text.quoted (Text.lossy label) ++ " missing"
  | .illegalStart line => "illegal section start: " ++ Text.quoted (Text.lossy line)
  | .base64 fault => fault.message

/-- The lines of a text, each with the byte that ends it. -/
def lines (text : Bytes) : List Bytes :=
  text.foldr (fun b ls =>
    if b = 10 ∨ b = 13 then [b] :: ls
    else
      match ls with
      | [] => [[b]]
      | l :: ls => (b :: l) :: ls) []

/-- What a line begins with that begins a section. -/
def startMark : Bytes := Bytes.ofString "-----BEGIN "

/-- What a line begins with that ends a section. -/
def endMark : Bytes := Bytes.ofString "-----END "

/-- The hyphens at the end of a line, between which there can be blanks: their number, and what
stands in front of them. The line is given last byte first, and so is the rest. -/
def trailingHyphens (count : Nat) (front : Bytes) : Bytes → Nat × Bytes
  | [] => (count, front)
  | b :: rest =>
    if b = 45 then trailingHyphens (count + 1) rest rest
    else if b = 10 ∨ b = 13 ∨ b = 32 then trailingHyphens count front rest
    else (count, front)

/-- The name of the section that a line begins. -/
def startLabel (line : Bytes) : Except Fault Bytes :=
  let (count, front) := trailingHyphens 0 line.reverse line.reverse
  if count = 5 then .ok (front.reverse.drop startMark.length) else .error (.illegalStart line)

/-- Whether a line ends the section with a name. -/
def isEnd (label line : Bytes) : Bool :=
  (endMark ++ label ++ Bytes.ofString "-----").isPrefixOf line

/-- Reads lines into sections: `open?` is the name of the section that has begun, and `body` what
has been read of it. Only sections of known kinds are kept. -/
def sectionsFrom (open? : Option Bytes) (body : Bytes) :
    List Bytes → List (Except Fault (Kind × Bytes))
  | [] =>
    match open? with
    | some label => [.error (.missingEnd label)]
    | none => []
  | line :: rest =>
    if startMark.isPrefixOf line then
      match startLabel line with
      | .error fault => [.error fault]
      | .ok label => sectionsFrom (some label) body rest
    else
      match open? with
      | none => sectionsFrom none body rest
      | some label =>
        if isEnd label line then
          match Kind.all.find? fun k => Bytes.ofString k.label = label with
          | none => sectionsFrom none [] rest
          | some kind =>
            match Text.Base64.decode body with
            | .error fault => .error (.base64 fault) :: sectionsFrom none [] rest
            | .ok content => .ok (kind, content) :: sectionsFrom none [] rest
        else sectionsFrom (some label) (body ++ line) rest

/-- The sections of a text, up to the first fault. -/
def sections (text : Bytes) : List (Except Fault (Kind × Bytes)) :=
  sectionsFrom none [] (lines text)

/-- The contents of the certificates in a text that can be read to its end. -/
def certificates (text : Bytes) : Except Fault (List Bytes) :=
  ((sections text).mapM id).map fun sections =>
    sections.filterMap fun s => if s.1 = .certificate then some s.2 else none

/-- The first private key of some sections. What follows it is not looked at. -/
def firstKey? : List (Except Fault (Kind × Bytes)) → Except Fault (Option (Kind × Bytes))
  | [] => .ok none
  | .error fault :: _ => .error fault
  | .ok s :: rest => if s.1.isPrivateKey then .ok (some s) else firstKey? rest

/-- The first private key of a text. -/
def privateKey? (text : Bytes) : Except Fault (Option (Kind × Bytes)) := firstKey? (sections text)

end Courier.Tls.Pem
