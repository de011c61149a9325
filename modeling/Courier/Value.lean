import Courier.Binary64
import Courier.Bytes
import Courier.Fields
import Courier.Instant

/-!
# `Courier.Value`: the values that travel

A value is what a request carries and what an answer holds. Maps have text keys and keep their
fields in ascending order (`Value.WellFormed`), integers are 64 bits wide with or without a sign,
and an extension that nobody knows stays as its tag and its bytes.
-/

set_option autoImplicit false

namespace Courier

/-- A value without a schema. -/
inductive Value where
  | nil
  | bool (b : Bool)
  | int (n : Int64)
  /-- An unsigned integer; one that fits `int` is the same number in another form. -/
  | uint (n : UInt64)
  | float (x : Binary64)
  | string (s : String)
  | binary (b : Bytes)
  | array (items : List Value)
  | map (fields : List (String × Value))
  | timestamp (t : Instant)
  | ext (tag : Int8) (data : Bytes)
deriving Inhabited

namespace Value

/-- The kinds of values, as messages name them. -/
inductive Kind where
  | nil
  | bool
  | integer
  | float
  | string
  | binary
  | array
  | map
  | timestamp
  | extension
deriving DecidableEq

/-- The name of a kind. -/
def Kind.name : Kind → String
  | .nil => "nil"
  | .bool => "bool"
  | .integer => "integer"
  | .float => "float"
  | .string => "string"
  | .binary => "binary"
  | .array => "array"
  | .map => "map"
  | .timestamp => "timestamp"
  | .extension => "extension"

/-- The kind of a value; both forms of integers are one kind. -/
def kind : Value → Kind
  | .nil => .nil
  | .bool _ => .bool
  | .int _ => .integer
  | .uint _ => .integer
  | .float _ => .float
  | .string _ => .string
  | .binary _ => .binary
  | .array _ => .array
  | .map _ => .map
  | .timestamp _ => .timestamp
  | .ext _ _ => .extension

/-- The integer in the form that readers expect: signed if it fits. -/
def ofUInt64 (n : UInt64) : Value :=
  if n.toNat < 0x8000000000000000 then .int (Int64.ofNat n.toNat) else .uint n

def asBool? : Value → Option Bool
  | .bool b => some b
  | _ => none

/-- The number, if it is an integer that fits 64 bits with a sign. -/
def asInt? : Value → Option Int64
  | .int n => some n
  | .uint n => if n.toNat < 0x8000000000000000 then some (Int64.ofNat n.toNat) else none
  | _ => none

/-- The number nearest to a float or an integer. -/
def asFloat? : Value → Option Binary64
  | .float x => some x
  | .int n => some (Binary64.ofInt n.toInt)
  | .uint n => some (Binary64.ofInt n.toNat)
  | _ => none

def asString? : Value → Option String
  | .string s => some s
  | _ => none

def asArray? : Value → Option (List Value)
  | .array items => some items
  | _ => none

def asMap? : Value → Option (List (String × Value))
  | .map fields => some fields
  | _ => none

def asTimestamp? : Value → Option Instant
  | .timestamp t => some t
  | _ => none

/-- The field of a map with this key. -/
def get? (v : Value) (key : String) : Option Value :=
  v.asMap?.bind fun fields => Fields.get? fields key

/-- A map with a field set, and nothing for a value that is no map. -/
def insert? (v : Value) (key : String) (x : Value) : Option Value :=
  match v with
  | .map fields => some (.map (Fields.insert key x fields))
  | _ => none

/-- The map of these fields, the last one of each key. -/
def ofFields (fields : List (String × Value)) : Value := .map (Fields.ofList fields)

mutual

/-- Whether the maps of a value have their keys in order at every depth. -/
def WellFormed : Value → Prop
  | .array items => WellFormedItems items
  | .map fields => Fields.Sorted fields ∧ WellFormedFields fields
  | _ => True

/-- Whether every item is well formed. -/
def WellFormedItems : List Value → Prop
  | [] => True
  | v :: rest => v.WellFormed ∧ WellFormedItems rest

/-- Whether the value of every field is well formed. -/
def WellFormedFields : List (String × Value) → Prop
  | [] => True
  | (_, v) :: rest => v.WellFormed ∧ WellFormedFields rest

end

mutual

/-- Equality of values: floats are equal as numbers, so that a NaN equals nothing, and the two
forms of integers differ. -/
def same : Value → Value → Bool
  | .nil, .nil => true
  | .bool a, .bool b => a == b
  | .int a, .int b => a == b
  | .uint a, .uint b => a == b
  | .float a, .float b => a.sameNumber b
  | .string a, .string b => a == b
  | .binary a, .binary b => a == b
  | .array a, .array b => sameItems a b
  | .map a, .map b => sameFields a b
  | .timestamp a, .timestamp b => a == b
  | .ext t a, .ext u b => t == u && a == b
  | _, _ => false

/-- Equality of items, one by one. -/
def sameItems : List Value → List Value → Bool
  | [], [] => true
  | a :: as, b :: bs => same a b && sameItems as bs
  | _, _ => false

/-- Equality of fields, one by one. -/
def sameFields : List (String × Value) → List (String × Value) → Bool
  | [], [] => true
  | (k, a) :: as, (l, b) :: bs => k == l && same a b && sameFields as bs
  | _, _ => false

end

mutual

/-- The number of containers around the deepest part of a value, an empty one included. -/
def depth : Value → Nat
  | .array items => depthItems items + 1
  | .map fields => depthFields fields + 1
  | _ => 0

/-- The depth of the deepest item. -/
def depthItems : List Value → Nat
  | [] => 0
  | v :: rest => max v.depth (depthItems rest)

/-- The depth of the deepest field. -/
def depthFields : List (String × Value) → Nat
  | [] => 0
  | (_, v) :: rest => max v.depth (depthFields rest)

end

end Value

end Courier
