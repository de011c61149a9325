import Courier.Tls.Der
import Courier.Tls.Pem

/-!
# `Courier.Tls.PrivateKey`: keys to sign with

A key is of an elliptic curve, of Edwards' curve, or of RSA. It is written with the name of its
algorithm, or in a form of its algorithm's own. Most keys tell the public key that they belong to.
-/

set_option autoImplicit false

namespace Courier.Tls

/-- A key, as far as it has to be known before anything is signed. -/
structure PrivateKey where
  /-- The public key in the form in which a certificate has it, if it is told. -/
  publicKey? : Option Bytes
deriving DecidableEq

namespace PrivateKey

/-- The name of the algorithms on elliptic curves. -/
def ellipticCurve : Bytes := [0x2a, 0x86, 0x48, 0xce, 0x3d, 0x02, 0x01]

/-- The name of RSA. -/
def rsa : Bytes := [0x2a, 0x86, 0x48, 0x86, 0xf7, 0x0d, 0x01, 0x01, 0x01]

/-- The name of the algorithm on Edwards' curve. -/
def edwards : Bytes := [0x2b, 0x65, 0x70]

/-- The curves that are known: their names, and the bytes of a coordinate. -/
def curves : List (Bytes × Nat) :=
  [([0x2a, 0x86, 0x48, 0xce, 0x3d, 0x03, 0x01, 0x07], 32), ([0x2b, 0x81, 0x04, 0x00, 0x22], 48),
    ([0x2b, 0x81, 0x04, 0x00, 0x23], 66)]

/-- A public key as it stands in a certificate. -/
def certified (algorithm parameters key : Bytes) : Bytes :=
  Der.write Der.sequence <|
    Der.write Der.sequence (Der.write Der.objectId algorithm ++ parameters)
      ++ Der.writeBitString key

/-- The point behind the key of a curve: absent, or with two coordinates. -/
def readPoint? (width : Nat) (b : Bytes) : Option (Option Bytes) :=
  if b.isEmpty then some none
  else do
    let content ← Der.readAll? (Der.part 1) b
    let (point, rest) ← Der.readBitString? content
    guard (rest.isEmpty ∧ point.length = 2 * width + 1 ∧ point.head? = some 4)
    some (some point)

/-- Reads a key of a curve. The curve is given, or named in the key. -/
def readCurveKey? (curve? : Option Bytes) (b : Bytes) : Option PrivateKey := do
  let content ← Der.readAll? Der.sequence b
  let (version, rest) ← Der.read? Der.integer content
  guard (version = [1])
  let (secret, rest) ← Der.read? Der.octetString rest
  let (named?, rest) := match Der.read? (Der.part 0) rest with
    | some (parameters, rest) => (Der.readAll? Der.objectId parameters, rest)
    | none => (none, rest)
  let name ← curve?.or named?
  let (_, width) ← curves.find? (·.1 = name)
  guard (secret.length = width ∧ secret.any (· ≠ 0))
  let point? ← readPoint? width rest
  some ⟨point?.map (certified ellipticCurve (Der.write Der.objectId name))⟩

/-- The integers that some bytes are, at most `count`. -/
def integers? : (count : Nat) → Bytes → Option (List Bytes)
  | _, [] => some []
  | 0, _ => none
  | count + 1, b => do
    let (n, rest) ← Der.read? Der.integer b
    return n :: (← integers? count rest)

/-- Reads a key of RSA: nine integers, of which the second and the third are the public key. -/
def readRsaKey? (b : Bytes) : Option PrivateKey := do
  match ← integers? 9 (← Der.readAll? Der.sequence b) with
  | [version, modulus, exponent, _, _, _, _, _, _] =>
    guard (version = [0])
    some ⟨some (certified rsa [0x05, 0x00]
      (Der.write Der.sequence (Der.write Der.integer modulus ++ Der.write Der.integer exponent)))⟩
  | _ => none

/-- Reads a key with the name of its algorithm. -/
def readNamed? (b : Bytes) : Option PrivateKey := do
  let content ← Der.readAll? Der.sequence b
  let (version, rest) ← Der.read? Der.integer content
  guard (version = [0] ∨ version = [1])
  let (algorithm, rest) ← Der.read? Der.sequence rest
  let (name, parameters) ← Der.read? Der.objectId algorithm
  let (key, _) ← Der.read? Der.octetString rest
  if name = ellipticCurve then readCurveKey? (some (← Der.readAll? Der.objectId parameters)) key
  else if name = rsa then readRsaKey? key
  else if name = edwards then do
    guard ((← Der.readAll? Der.octetString key).length = 32)
    some ⟨none⟩
  else none

/-- Reads the key of a section. -/
def read? : Pem.Kind → Bytes → Option PrivateKey
  | .privateKey, b => readNamed? b
  | .ecPrivateKey, b => readCurveKey? none b
  | .rsaPrivateKey, b => readRsaKey? b
  | _, _ => none

end PrivateKey

end Courier.Tls
