import Courier.Json.Printer
import Courier.Json.Reader
import Courier.Value

/-!
# `Courier.Payload`: values as JSON

Operators write payloads and read answers as JSON. `Value.ofJson` makes a value of JSON: integers
stay integers, and an object whose only key is `$time` stands for an instant. `Value.toJson`
shows any value: an instant as a text, bytes as a list of numbers, and an extension as an object
of its tag and its bytes.
-/

set_option autoImplicit false

namespace Courier

/-- Why JSON is no payload. -/
inductive PayloadError where
  /-- The seconds of an instant are no integer of 64 bits. -/
  | timeNotInteger
  /-- The instant lies outside the calendar. -/
  | timeOutOfRange (seconds : Int)
deriving DecidableEq

/-- The key that marks an instant. -/
def timeKey : String := "$time"

/-- The text of an error. -/
def PayloadError.message : PayloadError → String
  | .timeNotInteger => timeKey ++ " must be an integer number of seconds"
  | .timeOutOfRange seconds => timeKey ++ " out of range: " ++ toString seconds

namespace Value

/-- The value of a number. -/
def ofNumber : Json.Number → Value
  | .natural n => ofUInt64 n
  | .negative n => .int n
  | .float x => .float x

/-- The instant that the value under the key of instants stands for. -/
def instantOfJson (seconds : Json) : Except PayloadError Value :=
  match seconds with
  | .number n =>
    match n.asInt64? with
    | none => .error .timeNotInteger
    | some s =>
      match Instant.ofSeconds? s.toInt with
      | none => .error (.timeOutOfRange s.toInt)
      | some t => .ok (.timestamp t)
  | _ => .error .timeNotInteger

/-- The value under the key of instants, if an object has no other key. -/
def onlyTime? : List (String × Json) → Option Json
  | [(key, seconds)] => if key = timeKey then some seconds else none
  | _ => none

mutual

/-- The value that JSON stands for. -/
def ofJson : Json → Except PayloadError Value
  | .null => .ok .nil
  | .bool b => .ok (.bool b)
  | .number n => .ok (ofNumber n)
  | .string s => .ok (.string s)
  | .array items =>
    match ofJsonItems items with
    | .ok values => .ok (.array values)
    | .error e => .error e
  | .object fields =>
    match onlyTime? fields with
    | some seconds => instantOfJson seconds
    | none =>
      match ofJsonFields fields with
      | .ok values => .ok (.ofFields values)
      | .error e => .error e

/-- The values of the items; the first that is no payload decides. -/
def ofJsonItems : List Json → Except PayloadError (List Value)
  | [] => .ok []
  | x :: rest =>
    match ofJson x with
    | .error e => .error e
    | .ok v =>
      match ofJsonItems rest with
      | .error e => .error e
      | .ok vs => .ok (v :: vs)

/-- The values of the fields; the first that is no payload decides. -/
def ofJsonFields : List (String × Json) → Except PayloadError (List (String × Value))
  | [] => .ok []
  | (key, x) :: rest =>
    match ofJson x with
    | .error e => .error e
    | .ok v =>
      match ofJsonFields rest with
      | .error e => .error e
      | .ok vs => .ok ((key, v) :: vs)

end

/-- Bytes as a list of numbers. -/
def jsonOfBytes (b : Bytes) : Json := .array (b.map fun d => .number (.natural d.toUInt64))

mutual

/-- The JSON that shows a value. -/
def toJson : Value → Json
  | .nil => .null
  | .bool b => .bool b
  | .int n => .number (.ofInt64 n)
  | .uint n => .number (.natural n)
  | .float x => .number (.float x)
  | .string s => .string s
  | .binary b => jsonOfBytes b
  | .array items => .array (toJsonItems items)
  | .map fields => .object (toJsonFields fields)
  | .timestamp t => .string t.toRfc3339
  | .ext tag data => .object [("ext", .number (.ofInt64 tag.toInt64)), ("data", jsonOfBytes data)]

/-- The JSON of the items. -/
def toJsonItems : List Value → List Json
  | [] => []
  | v :: rest => v.toJson :: toJsonItems rest

/-- The JSON of the fields. -/
def toJsonFields : List (String × Value) → List (String × Json)
  | [] => []
  | (key, v) :: rest => (key, v.toJson) :: toJsonFields rest

end

/-- The text that shows a value to the operator. -/
def display (v : Value) : String := String.ofList v.toJson.pretty

end Value

end Courier
