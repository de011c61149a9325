import Courier.MessagePack.Notation
import Courier.MessagePack.Reader
import Courier.Value

/-!
# `Courier.WireError`: what can go wrong with bytes

One constructor per cause, and one function for the wording.
-/

set_option autoImplicit false

namespace Courier

/-- Why an envelope is malformed. -/
inductive EnvelopeFault where
  /-- The value is no map. -/
  | notMap (found : Value.Kind)
  /-- The warnings are no array. -/
  | warningsNotArray (found : Value.Kind)
  /-- One of the warnings is no string. -/
  | warningNotString (found : Value.Kind)
deriving DecidableEq

/-- The text of a fault. -/
def EnvelopeFault.message : EnvelopeFault → String
  | .notMap found => "expected map, got " ++ found.name
  | .warningsNotArray found => "warn is " ++ found.name ++ ", not an array"
  | .warningNotString found => "warning is " ++ found.name ++ ", not a string"

/-- Why a value could not be encoded or bytes could not be decoded. -/
inductive WireError where
  /-- An extension failed to pack a value. -/
  | encode (detail : String)
  /-- The bytes are no object of the format. -/
  | malformed (cause : MessagePack.ReadError)
  /-- An extension failed to unpack its data. -/
  | unpack (detail : String)
  /-- Bytes follow the object. -/
  | trailingData (count : Nat)
  /-- The data of a timestamp has fewer than the expected bytes. -/
  | timestampTooShort (expected actual : Nat)
  /-- The seconds of a timestamp lie outside the calendar. -/
  | timestampOutOfRange (seconds : Int)
  /-- No extension packs values of this kind. -/
  | noPacker (kind : Value.Kind)
  /-- A key of a map is no string. -/
  | nonStringKey (key : String)
  /-- A string is not UTF-8. -/
  | invalidUtf8
  /-- The value is no envelope. -/
  | envelope (fault : EnvelopeFault)
deriving DecidableEq

namespace WireError

/-- The text of an error. -/
def message : WireError → String
  | .encode detail => "msgpack encode error: " ++ detail
  | .malformed cause => "msgpack decode error: " ++ cause.message
  | .unpack detail => "msgpack decode error: " ++ detail
  | .trailingData count => "trailing data after value: " ++ toString count ++ " bytes"
  | .timestampTooShort expected actual =>
    "msgp-date: got a length less than " ++ toString expected ++ " for timestamp data ("
      ++ toString actual ++ " bytes)"
  | .timestampOutOfRange seconds => "timestamp out of range: " ++ toString seconds ++ " seconds"
  | .noPacker kind => "no extension registered to pack " ++ kind.name
  | .nonStringKey key => "map key is not a string: " ++ key
  | .invalidUtf8 => "invalid UTF-8 in string value"
  | .envelope fault => "malformed envelope: " ++ fault.message

/-- Whether the error came from reading bytes and not from writing a value. -/
def isDecode : WireError → Bool
  | .encode _ => false
  | .noPacker _ => false
  | _ => true

end WireError

end Courier
