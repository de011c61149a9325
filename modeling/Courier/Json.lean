import Courier.Binary64

/-!
# `Courier.Json`: JSON values

The values of the JSON grammar. Fields of an object keep the order in which they are given, and
numbers keep the difference between integers and others that the grammar draws.
-/

set_option autoImplicit false

namespace Courier

/-- A JSON number. -/
inductive Json.Number where
  /-- An integer without a sign. -/
  | natural (n : UInt64)
  /-- An integer below zero. -/
  | negative (n : Int64)
  /-- A number with a fraction or an exponent, or too large for an integer. -/
  | float (x : Binary64)
deriving DecidableEq, Inhabited

/-- A JSON value. -/
inductive Json where
  | null
  | bool (b : Bool)
  | number (n : Json.Number)
  | string (s : String)
  | array (items : List Json)
  | object (fields : List (String × Json))
deriving Inhabited

namespace Json

/-- The number of an integer of 64 bits with a sign. -/
def Number.ofInt64 (n : Int64) : Number :=
  if n.toInt ≥ 0 then .natural (UInt64.ofNat n.toInt.toNat) else .negative n

/-- The integer, if the number is one that fits 64 bits with a sign. -/
def Number.asInt64? : Number → Option Int64
  | .natural n => if n.toNat < 0x8000000000000000 then some (Int64.ofNat n.toNat) else none
  | .negative n => some n
  | .float _ => none

end Json

end Courier
