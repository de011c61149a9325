import Courier.Bytes

/-!
# `Courier.Text.Hex`: bytes as hexadecimal digits

Two lower-case digits per byte, the high one first. `decode?` reads either case.
-/

set_option autoImplicit false

namespace Courier.Text.Hex

/-- The digit of a number below sixteen. -/
def digit (n : Nat) : Char := if n < 10 then Char.ofNat (48 + n) else Char.ofNat (87 + n)

/-- The value of a digit of either case. -/
def digitValue? (c : Char) : Option Nat :=
  let n := c.toNat
  if 48 ≤ n ∧ n ≤ 57 then some (n - 48)
  else if 97 ≤ n ∧ n ≤ 102 then some (n - 87)
  else if 65 ≤ n ∧ n ≤ 70 then some (n - 55)
  else none

/-- The two digits of a byte. -/
def byteDigits (d : UInt8) : List Char := [digit (d.toNat / 16), digit (d.toNat % 16)]

/-- The digits of a byte string. -/
def encode (b : Bytes) : List Char := b.flatMap byteDigits

/-- The bytes whose digits these are, read onto `out`, which is last byte first. -/
def decodeOnto (out : Bytes) : List Char → Option Bytes
  | [] => some out.reverse
  | [_] => none
  | h :: l :: rest =>
    match digitValue? h, digitValue? l with
    | some a, some b => decodeOnto (UInt8.ofNat (16 * a + b) :: out) rest
    | _, _ => none

/-- The bytes whose digits these are. -/
def decode? (cs : List Char) : Option Bytes := decodeOnto [] cs

end Courier.Text.Hex
