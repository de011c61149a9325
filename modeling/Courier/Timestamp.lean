import Courier.WireError

/-!
# `Courier.Timestamp`: instants as twelve bytes

An instant travels as an extension with tag 5: its seconds as a signed big-endian word of eight
bytes, then four bytes for nanoseconds. Packing counts milliseconds and rounds them up to whole
seconds, and leaves the nanoseconds zero. Unpacking ignores them, and anything after them. It counts
milliseconds, too, in a word of eight bytes that not all seconds fit.
-/

set_option autoImplicit false

namespace Courier.Timestamp

/-- The tag of the extension. -/
def tag : Int8 := 5

/-- The number of bytes that the data has at least. -/
def size : Nat := 12

/-- The seconds that are packed: the milliseconds of the instant, rounded up to seconds. -/
def packedSeconds (t : Instant) : Int :=
  t.millis / 1000 + if t.millis % 1000 = 0 then 0 else 1

/-- The data that stands for an instant. -/
def pack (t : Instant) : Bytes :=
  Bytes.bigEndian 8 (packedSeconds t % UInt64.size).toNat ++ [0, 0, 0, 0]

/-- The milliseconds of some seconds, unless they overflow a word of eight bytes. -/
def millisOf? (seconds : Int) : Option Int :=
  if -0x8000000000000000 ≤ seconds * 1000 ∧ seconds * 1000 < 0x8000000000000000 then
    some (seconds * 1000)
  else none

/-- The instant that the data stands for. -/
def unpack (data : Bytes) : Except WireError Instant :=
  if data.length < size then .error (.timestampTooShort size data.length)
  else
    let seconds := MessagePack.ofTwosComplement 8 (Bytes.ofBigEndian (data.take 8))
    match (millisOf? seconds).bind Instant.ofMillis? with
    | some t => .ok t
    | none => .error (.timestampOutOfRange seconds)

end Courier.Timestamp
