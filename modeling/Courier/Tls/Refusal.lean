import Courier.Bytes

/-!
# `Courier.Tls.Refusal`: peers that do not speak TLS

Every record of a peer begins with its kind, a version and its length. `Refusal.of` tells why there
is no encrypted connection when the peer answers a greeting with some bytes and hangs up, without
a whole record.
-/

set_option autoImplicit false

namespace Courier.Tls

/-- Why there is no encrypted connection. -/
inductive Refusal where
  /-- The peer hangs up before its first record is complete. -/
  | ended
  | invalidKind
  | unknownVersion
  | emptyRecord
  | tooLong
deriving DecidableEq

namespace Refusal

/-- The text of a refusal. -/
def message : Refusal → String
  | .ended => "tls handshake eof"
  | .invalidKind => "received corrupt message of type InvalidContentType"
  | .unknownVersion => "received corrupt message of type UnknownProtocolVersion"
  | .emptyRecord => "received corrupt message of type InvalidEmptyPayload"
  | .tooLong => "received corrupt message of type MessageTooLarge"

/-- Whether a byte is a kind of records. -/
def isKind (b : UInt8) : Bool := 0x14 ≤ b && b ≤ 0x18

/-- The kind of records of data, which alone can be empty. -/
def dataKind : UInt8 := 0x17

/-- Why a peer that answers with some bytes and hangs up gets no further. -/
def of : Bytes → Refusal
  | [] => .ended
  | kind :: rest =>
    if !isKind kind then .invalidKind
    else
      match rest with
      | major :: _ :: rest =>
        if major ≠ 3 then .unknownVersion
        else
          match rest with
          | high :: low :: _ =>
            let length := Bytes.ofBigEndian [high, low]
            if length = 0 ∧ kind ≠ dataKind then .emptyRecord
            else if length ≥ 16384 + 2048 then .tooLong
            else .ended
          | _ => .ended
      | _ => .ended

end Refusal

end Courier.Tls
