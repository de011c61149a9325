import Courier.Tls.Der

/-!
# `Courier.Tls.Certificate`: the key that is certified

A certificate of version 3 is read as far as a client needs it before it talks to anybody: whether
it is one, and which key it certifies.
-/

set_option autoImplicit false

namespace Courier.Tls

/-- A certificate. -/
structure Certificate where
  /-- The key that is certified, with the name of its algorithm. -/
  publicKey : Bytes
deriving DecidableEq

namespace Certificate

/-- Whether some bytes are at most `count` extensions, each a sequence with a name at its front. -/
def areExtensions : (count : Nat) → Bytes → Bool
  | 0, b => b.isEmpty
  | count + 1, b =>
    match Der.read? Der.sequence b with
    | none => b.isEmpty
    | some (extension, rest) =>
      (Der.read? Der.objectId extension).isSome && areExtensions count rest

/-- Whether some bytes are the extensions of a certificate, or nothing. -/
def isTail (b : Bytes) : Bool :=
  b.isEmpty || ((Der.readAll? (Der.part 3) b).bind (Der.readAll? Der.sequence)).any
    (areExtensions b.length)

/-- Reads the part of a certificate that is signed with an algorithm. -/
def readSigned? (algorithm b : Bytes) : Option Certificate := do
  let (version, b) ← Der.read? (Der.part 0) b
  guard (Der.readAll? Der.integer version = some [2])
  let (serial, b) ← Der.read? Der.integer b
  guard !serial.isEmpty
  let (signature, b) ← Der.read? Der.sequence b
  guard (signature = algorithm)
  let (_, b) ← Der.read? Der.sequence b
  let (_, b) ← Der.read? Der.sequence b
  let (_, b) ← Der.read? Der.sequence b
  let (key, b) ← Der.read? Der.sequence b
  guard (isTail b)
  some ⟨Der.write Der.sequence key⟩

/-- Reads a certificate. -/
def read? (b : Bytes) : Option Certificate := do
  let content ← Der.readAll? Der.sequence b
  let (signed, rest) ← Der.read? Der.sequence content
  let (algorithm, rest) ← Der.read? Der.sequence rest
  let (_, rest) ← Der.readBitString? rest
  guard rest.isEmpty
  readSigned? algorithm signed

end Certificate

end Courier.Tls
