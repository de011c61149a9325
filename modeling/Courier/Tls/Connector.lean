import Courier.Config
import Courier.Tls.Certificate
import Courier.Tls.PrivateKey
import Courier.TransportError

/-!
# `Courier.Tls.Connector`: how a client proves who it is, and whom it trusts

A connector trusts any server, or the authorities of a file, or the usual ones. With a certificate
and its key a client shows who it is. `Connector.ofSettings` reads the files that the settings name,
in the order of the settings, and stops at the first fault.
-/

set_option autoImplicit false

namespace Courier.Tls

/-- Which servers are trusted. -/
inductive Trust where
  | everybody
  | usual
  | authorities (certificates : List Certificate)
deriving DecidableEq

/-- A certificate chain of the client, and the key of its first certificate. -/
structure Identity where
  chain : List Bytes
  key : PrivateKey
deriving DecidableEq

/-- What is needed to open an encrypted connection. -/
structure Connector where
  trust : Trust
  identity? : Option Identity
deriving DecidableEq

/-- Why there is no connector. -/
inductive Fault where
  | certificateFile (path : String) (cause : FileError)
  | certificateText (path : String) (cause : Pem.Fault)
  | noCertificate (path : String)
  | keyFile (path : String) (cause : FileError)
  | keyText (path : String) (cause : Pem.Fault)
  | noKey (path : String)
  /-- A certificate of an authority is none. -/
  | badAuthority
  /-- Only one of the certificate and the key of the client is given. -/
  | halfIdentity
  | badKey
  | badCertificate
  /-- The key does not belong to the certificate. -/
  | keyMismatch
deriving DecidableEq

/-- How far a file without content was used. A directory can be opened, but it has no text. -/
def failedStep (cause : FileError) : String :=
  if cause = .isDirectory then "invalid" else "cannot open"

/-- The text of a fault. -/
def Fault.message : Fault → String
  | .certificateFile path cause =>
    failedStep cause ++ " cert file " ++ Text.quotedPath path ++ ": " ++ cause.message
  | .certificateText path cause =>
    "invalid cert file " ++ Text.quotedPath path ++ ": " ++ cause.message
  | .noCertificate path => "no certificates found in " ++ Text.quotedPath path
  | .keyFile path cause =>
    failedStep cause ++ " key file " ++ Text.quotedPath path ++ ": " ++ cause.message
  | .keyText path cause => "invalid key file " ++ Text.quotedPath path ++ ": " ++ cause.message
  | .noKey path => "no private key found in " ++ Text.quotedPath path
  | .badAuthority => "invalid CA cert: invalid peer certificate: BadEncoding"
  | .halfIdentity => "client_cert_path and client_key_path must be set together"
  | .badKey =>
    "invalid client cert/key: unexpected error: failed to parse private key as RSA, ECDSA, or EdDSA"
  | .badCertificate => "invalid client cert/key: invalid peer certificate: BadEncoding"
  | .keyMismatch => "invalid client cert/key: keys may not be consistent: KeyMismatch"

/-- The certificates of a file, of which there must be one. -/
def loadCertificates (disk : Disk) (path : String) : Except Fault (List Bytes) :=
  match disk path with
  | .error cause => .error (.certificateFile path cause)
  | .ok text =>
    match Pem.certificates text with
    | .error cause => .error (.certificateText path cause)
    | .ok [] => .error (.noCertificate path)
    | .ok certificates => .ok certificates

/-- The key of a file. -/
def loadKey (disk : Disk) (path : String) : Except Fault (Pem.Kind × Bytes) :=
  match disk path with
  | .error cause => .error (.keyFile path cause)
  | .ok text =>
    match Pem.privateKey? text with
    | .error cause => .error (.keyText path cause)
    | .ok none => .error (.noKey path)
    | .ok (some key) => .ok key

/-- The authorities of a file, or the usual ones. -/
def loadTrust (disk : Disk) : Option String → Except Fault Trust
  | none => .ok .usual
  | some path =>
    match loadCertificates disk path with
    | .error fault => .error fault
    | .ok certificates =>
      match certificates.mapM Certificate.read? with
      | none => .error .badAuthority
      | some authorities => .ok (.authorities authorities)

/-- The identity of a certificate chain and a key that belong together. -/
def Identity.check (chain : List Bytes) (kind : Pem.Kind) (content : Bytes) :
    Except Fault Identity :=
  match PrivateKey.read? kind content with
  | none => .error .badKey
  | some key =>
    match key.publicKey? with
    | none => .ok ⟨chain, key⟩
    | some publicKey =>
      match chain.head?.bind Certificate.read? with
      | none => .error .badCertificate
      | some certificate =>
        if certificate.publicKey = publicKey then .ok ⟨chain, key⟩ else .error .keyMismatch

/-- The identity of the files of a client, if it has any. -/
def loadIdentity (disk : Disk) : (cert? key? : Option String) → Except Fault (Option Identity)
  | none, none => .ok none
  | some cert, some key => do
    let chain ← loadCertificates disk cert
    let (kind, content) ← loadKey disk key
    return some (← Identity.check chain kind content)
  | _, _ => .error .halfIdentity

namespace Connector

/-- The connector of some settings. If every server is trusted, no file is read and the client
does not show who it is. -/
def ofSettings (disk : Disk) (settings : TlsSettings) : Except Fault Connector :=
  if settings.insecure then .ok ⟨.everybody, none⟩
  else
    match loadTrust disk settings.caCert? with
    | .error fault => .error fault
    | .ok trust => (loadIdentity disk settings.clientCert? settings.clientKey?).map (⟨trust, ·⟩)

end Connector

end Courier.Tls
