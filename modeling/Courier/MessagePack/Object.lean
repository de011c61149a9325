import Courier.Binary64
import Courier.Bytes

/-!
# `Courier.MessagePack.Object`: what MessagePack can say

An object is one datum of the MessagePack format, before anything is known about its meaning:
strings are bytes that may not be text, keys of maps are objects of any kind, and a map is a
list of entries in the order in which they stand.

`Marker` is the first byte of every object. It names a kind and either holds a small number or
a length itself or says how many bytes of one follow.
-/

set_option autoImplicit false

namespace Courier.MessagePack

/-- One datum of the format. -/
inductive Object where
  | nil
  | bool (b : Bool)
  /-- An integer from `-2 ^ 63` to `2 ^ 64 - 1`. -/
  | int (n : Int)
  | float32 (bits : UInt32)
  | float64 (x : Binary64)
  | string (b : Bytes)
  | binary (b : Bytes)
  | array (items : List Object)
  | map (entries : List (Object × Object))
  | ext (tag : Int8) (data : Bytes)
deriving Inhabited

/-- A length: given in the marker or in the next `width` bytes. -/
inductive Count where
  | fixed (n : Nat)
  | word (width : Nat)
deriving DecidableEq

/-- The meaning of the first byte of an object. -/
inductive Marker where
  | nil
  | bool (b : Bool)
  /-- A small integer that the marker holds itself. -/
  | int (n : Int)
  /-- An unsigned integer of `width` bytes. -/
  | unsigned (width : Nat)
  /-- A two's complement integer of `width` bytes. -/
  | signed (width : Nat)
  | float32
  | float64
  | string (count : Count)
  | binary (count : Count)
  | array (count : Count)
  | map (count : Count)
  | ext (count : Count)
deriving DecidableEq

/-- The meaning of a byte as a marker. The one byte that the format reserves reads as nil. -/
def Marker.ofByte (b : UInt8) : Marker :=
  let n := b.toNat
  if n < 0x80 then .int n
  else if n < 0x90 then .map (.fixed (n - 0x80))
  else if n < 0xa0 then .array (.fixed (n - 0x90))
  else if n < 0xc0 then .string (.fixed (n - 0xa0))
  else if n ≥ 0xe0 then .int ((n : Int) - 0x100)
  else match n with
    | 0xc2 => .bool false
    | 0xc3 => .bool true
    | 0xc4 => .binary (.word 1)
    | 0xc5 => .binary (.word 2)
    | 0xc6 => .binary (.word 4)
    | 0xc7 => .ext (.word 1)
    | 0xc8 => .ext (.word 2)
    | 0xc9 => .ext (.word 4)
    | 0xca => .float32
    | 0xcb => .float64
    | 0xcc => .unsigned 1
    | 0xcd => .unsigned 2
    | 0xce => .unsigned 4
    | 0xcf => .unsigned 8
    | 0xd0 => .signed 1
    | 0xd1 => .signed 2
    | 0xd2 => .signed 4
    | 0xd3 => .signed 8
    | 0xd4 => .ext (.fixed 1)
    | 0xd5 => .ext (.fixed 2)
    | 0xd6 => .ext (.fixed 4)
    | 0xd7 => .ext (.fixed 8)
    | 0xd8 => .ext (.fixed 16)
    | 0xd9 => .string (.word 1)
    | 0xda => .string (.word 2)
    | 0xdb => .string (.word 4)
    | 0xdc => .array (.word 2)
    | 0xdd => .array (.word 4)
    | 0xde => .map (.word 2)
    | 0xdf => .map (.word 4)
    | _ => .nil

end Courier.MessagePack
