/-!
# `Courier.Text.Integer`: decimal integers as text

A sign may stand before the digits, a minus only where numbers can be negative. Reading goes
from left to right, so that of two faults the first one counts: a character that is no digit, or
the digit with which the number leaves its range.
-/

set_option autoImplicit false

namespace Courier.Text

/-- Why a text is no integer of the wanted range. -/
inductive IntegerError where
  | empty
  | invalidDigit
  | tooLarge
  | tooSmall
deriving DecidableEq

/-- The text of an error. -/
def IntegerError.message : IntegerError → String
  | .empty => "cannot parse integer from empty string"
  | .invalidDigit => "invalid digit found in string"
  | .tooLarge => "number too large to fit in target type"
  | .tooSmall => "number too small to fit in target type"

namespace Integer

/-- The decimal digit that a character is. -/
def digit? (c : Char) : Option Nat :=
  if '0' ≤ c ∧ c ≤ '9' then some (c.toNat - '0'.toNat) else none

/-- The number with more digits at its end, at most `limit`. -/
def magnitude (limit : Nat) (beyond : IntegerError) : Nat → List Char → Except IntegerError Nat
  | n, [] => .ok n
  | n, c :: cs =>
    match digit? c with
    | none => .error .invalidDigit
    | some d => if n * 10 + d ≤ limit then magnitude limit beyond (n * 10 + d) cs else .error beyond

/-- The number of at least one digit. -/
def digits (limit : Nat) (beyond : IntegerError) : List Char → Except IntegerError Nat
  | [] => .error .invalidDigit
  | c :: cs => magnitude limit beyond 0 (c :: cs)

end Integer

open Integer in
/-- Reads an integer of 64 bits with a sign. -/
def readInt64 (s : String) : Except IntegerError Int64 :=
  match s.toList with
  | [] => .error .empty
  | '-' :: cs => (digits 0x8000000000000000 .tooSmall cs).map fun n => Int64.ofInt (-(n : Int))
  | '+' :: cs => (digits 0x7fffffffffffffff .tooLarge cs).map fun n => Int64.ofInt n
  | cs => (digits 0x7fffffffffffffff .tooLarge cs).map fun n => Int64.ofInt n

open Integer in
/-- Reads an integer of 64 bits without a sign. -/
def readUInt64 (s : String) : Except IntegerError UInt64 :=
  match s.toList with
  | [] => .error .empty
  | '+' :: cs => (digits (UInt64.size - 1) .tooLarge cs).map UInt64.ofNat
  | cs => (digits (UInt64.size - 1) .tooLarge cs).map UInt64.ofNat

end Courier.Text
