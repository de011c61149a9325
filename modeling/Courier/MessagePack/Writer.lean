import Courier.MessagePack.Object

/-!
# `Courier.MessagePack.Writer`: the shortest form

Every object has one shortest form: integers and lengths take the narrowest marker that holds
them, and an integer that is not negative is written without a sign. `Object.bytes` writes it.
-/

set_option autoImplicit false

namespace Courier.MessagePack

open Bytes (bigEndian)

/-- The shortest form of an integer. -/
def intBytes (n : Int) : Bytes :=
  if n ≥ 0 then
    let m := n.toNat
    if m < 0x80 then [UInt8.ofNat m]
    else if m < 0x100 then 0xcc :: bigEndian 1 m
    else if m < 0x10000 then 0xcd :: bigEndian 2 m
    else if m < 0x100000000 then 0xce :: bigEndian 4 m
    else 0xcf :: bigEndian 8 m
  else if n ≥ -0x20 then [UInt8.ofNat (n + 0x100).toNat]
  else if n ≥ -0x80 then 0xd0 :: bigEndian 1 (n + 0x100).toNat
  else if n ≥ -0x8000 then 0xd1 :: bigEndian 2 (n + 0x10000).toNat
  else if n ≥ -0x80000000 then 0xd2 :: bigEndian 4 (n + 0x100000000).toNat
  else 0xd3 :: bigEndian 8 (n + 0x10000000000000000).toNat

/-- The marker and length of a string. -/
def stringHead (n : Nat) : Bytes :=
  if n < 0x20 then [UInt8.ofNat (0xa0 + n)]
  else if n < 0x100 then 0xd9 :: bigEndian 1 n
  else if n < 0x10000 then 0xda :: bigEndian 2 n
  else 0xdb :: bigEndian 4 n

/-- The marker and length of a byte string. -/
def binaryHead (n : Nat) : Bytes :=
  if n < 0x100 then 0xc4 :: bigEndian 1 n
  else if n < 0x10000 then 0xc5 :: bigEndian 2 n
  else 0xc6 :: bigEndian 4 n

/-- The marker and length of an array. -/
def arrayHead (n : Nat) : Bytes :=
  if n < 0x10 then [UInt8.ofNat (0x90 + n)]
  else if n < 0x10000 then 0xdc :: bigEndian 2 n
  else 0xdd :: bigEndian 4 n

/-- The marker and length of a map. -/
def mapHead (n : Nat) : Bytes :=
  if n < 0x10 then [UInt8.ofNat (0x80 + n)]
  else if n < 0x10000 then 0xde :: bigEndian 2 n
  else 0xdf :: bigEndian 4 n

/-- The marker and length of an extension; five lengths have a marker of their own. -/
def extHead (n : Nat) : Bytes :=
  if n = 1 then [0xd4]
  else if n = 2 then [0xd5]
  else if n = 4 then [0xd6]
  else if n = 8 then [0xd7]
  else if n = 16 then [0xd8]
  else if n < 0x100 then 0xc7 :: bigEndian 1 n
  else if n < 0x10000 then 0xc8 :: bigEndian 2 n
  else 0xc9 :: bigEndian 4 n

mutual

/-- The shortest form of an object. -/
def Object.bytes : Object → Bytes
  | .nil => [0xc0]
  | .bool b => [if b then 0xc3 else 0xc2]
  | .int n => intBytes n
  | .float32 x => 0xca :: bigEndian 4 x.toNat
  | .float64 x => 0xcb :: bigEndian 8 x.bits.toNat
  | .string b => stringHead b.length ++ b
  | .binary b => binaryHead b.length ++ b
  | .array items => arrayHead items.length ++ itemBytes items
  | .map entries => mapHead entries.length ++ entryBytes entries
  | .ext tag data => extHead data.length ++ tag.toUInt8 :: data

/-- The forms of the items, one after the other. -/
def itemBytes : List Object → Bytes
  | [] => []
  | x :: rest => x.bytes ++ itemBytes rest

/-- The forms of keys and values in turn. -/
def entryBytes : List (Object × Object) → Bytes
  | [] => []
  | (k, x) :: rest => k.bytes ++ (x.bytes ++ entryBytes rest)

end

end Courier.MessagePack
