import Courier.Bytes

/-!
# `Courier.Tls.Der`: tagged values

Certificates and keys are nested values. Each has a tag of one byte, a length in its shortest form,
and that many bytes. `read?` takes a value off the front of some bytes, and `write` puts it back.
-/

set_option autoImplicit false

namespace Courier.Tls.Der

/-- The tag of an integer. -/
def integer : UInt8 := 0x02

/-- The tag of a string of bits. -/
def bitString : UInt8 := 0x03

/-- The tag of a string of bytes. -/
def octetString : UInt8 := 0x04

/-- The tag of the name of an algorithm or a curve. -/
def objectId : UInt8 := 0x06

/-- The tag of a sequence. -/
def sequence : UInt8 := 0x30

/-- The tag of a part with a number. -/
def part (n : Nat) : UInt8 := UInt8.ofNat (0xa0 + n)

/-- The length at the front of some bytes. -/
def readLength? : Bytes → Option (Nat × Bytes)
  | [] => none
  | b :: rest =>
    if b < 0x80 then some (b.toNat, rest)
    else
      let width := b.toNat - 0x80
      let n := Bytes.ofBigEndian (rest.take width)
      if width = 0 ∨ width > 4 ∨ rest.length < width then none
      else if n < 0x80 ∨ n < Bytes.capacity (width - 1) then none
      else some (n, rest.drop width)

/-- The value with a tag at the front of some bytes, and what follows it. -/
def read? (tag : UInt8) : Bytes → Option (Bytes × Bytes)
  | [] => none
  | t :: rest => do
    guard (t = tag)
    let (n, rest) ← readLength? rest
    guard (n ≤ rest.length)
    some (rest.take n, rest.drop n)

/-- The value with a tag that some bytes are, with nothing behind it. -/
def readAll? (tag : UInt8) (b : Bytes) : Option Bytes := do
  let (value, rest) ← read? tag b
  guard rest.isEmpty
  some value

/-- A value with a tag and its length. -/
def write (tag : UInt8) (value : Bytes) : Bytes :=
  let n := value.length
  let length :=
    if n < 0x80 then [UInt8.ofNat n]
    else if n < 0x100 then 0x81 :: Bytes.bigEndian 1 n
    else if n < 0x10000 then 0x82 :: Bytes.bigEndian 2 n
    else if n < 0x1000000 then 0x83 :: Bytes.bigEndian 3 n
    else 0x84 :: Bytes.bigEndian 4 n
  tag :: length ++ value

/-- The bytes of a string of whole bytes, which is written as one of bits. -/
def readBitString? (b : Bytes) : Option (Bytes × Bytes) := do
  let (value, rest) ← read? bitString b
  match value with
  | 0 :: content => some (content, rest)
  | _ => none

/-- A string of bytes, written as one of bits. -/
def writeBitString (content : Bytes) : Bytes := write bitString (0 :: content)

end Courier.Tls.Der
