import Courier.Extension
import Courier.MessagePack.Writer

/-!
# `Courier.Codec`: values as bytes

A codec is a table of extensions. `encode` gives a value its MessagePack form, with timestamps
packed by the table; `decode` reads exactly one object and gives it a meaning. Reading comes
first: an input that is no object, or is followed by more bytes, is refused before any of its
parts is looked at.
-/

set_option autoImplicit false

namespace Courier

/-- Turns values into bytes and bytes into values. -/
structure Codec where
  extensions : ExtensionTable

namespace Codec

/-- The codec without extensions. -/
def bare : Codec := ⟨.empty⟩

/-- The codec with the extension for timestamps. -/
def standard : Codec := ⟨ExtensionTable.empty.register .timestamp⟩

open MessagePack (Object)

mutual

/-- The object that stands for a value. -/
def toObject (c : Codec) : Value → Except WireError Object
  | .nil => .ok .nil
  | .bool b => .ok (.bool b)
  | .int n => .ok (.int n.toInt)
  | .uint n => .ok (.int n.toNat)
  | .float x => .ok (.float64 x)
  | .string s => .ok (.string (Bytes.ofString s))
  | .binary b => .ok (.binary b)
  | .array items =>
    match c.toItems items with
    | .ok objects => .ok (.array objects)
    | .error e => .error e
  | .map fields =>
    match c.toEntries fields with
    | .ok entries => .ok (.map entries)
    | .error e => .error e
  | .timestamp t =>
    match c.extensions.pack (.timestamp t) with
    | some (.ok (tag, data)) => .ok (.ext tag data)
    | some (.error e) => .error e
    | none => .error (.noPacker .timestamp)
  | .ext tag data => .ok (.ext tag data)

/-- The objects that stand for the items. -/
def toItems (c : Codec) : List Value → Except WireError (List Object)
  | [] => .ok []
  | v :: rest =>
    match c.toObject v with
    | .error e => .error e
    | .ok x =>
      match c.toItems rest with
      | .error e => .error e
      | .ok xs => .ok (x :: xs)

/-- The entries that stand for the fields. -/
def toEntries (c : Codec) : List (String × Value) → Except WireError (List (Object × Object))
  | [] => .ok []
  | (key, v) :: rest =>
    match c.toObject v with
    | .error e => .error e
    | .ok x =>
      match c.toEntries rest with
      | .error e => .error e
      | .ok xs => .ok ((.string (Bytes.ofString key), x) :: xs)

end

/-- The key that an object is, if it is a text. -/
def keyOf : Object → Except WireError String
  | .string b =>
    match Bytes.toString? b with
    | some s => .ok s
    | none => .error .invalidUtf8
  | other => .error (.nonStringKey other.notate)

mutual

/-- The value that an object stands for. -/
def ofObject (c : Codec) : Object → Except WireError Value
  | .nil => .ok .nil
  | .bool b => .ok (.bool b)
  | .int n =>
    if n < 0x8000000000000000 then .ok (.int (Int64.ofInt n))
    else .ok (.uint (UInt64.ofNat n.toNat))
  | .float32 bits => .ok (.float (Binary64.ofBinary32 bits))
  | .float64 x => .ok (.float x)
  | .string b =>
    match Bytes.toString? b with
    | some s => .ok (.string s)
    | none => .error .invalidUtf8
  | .binary b => .ok (.binary b)
  | .array items =>
    match c.ofItems items with
    | .ok values => .ok (.array values)
    | .error e => .error e
  | .map entries =>
    match c.ofEntries entries with
    | .ok fields => .ok (.ofFields fields)
    | .error e => .error e
  | .ext tag data => c.extensions.unpack tag data

/-- The values of the items; the first that has none decides. -/
def ofItems (c : Codec) : List Object → Except WireError (List Value)
  | [] => .ok []
  | x :: rest =>
    match c.ofObject x with
    | .error e => .error e
    | .ok v =>
      match c.ofItems rest with
      | .error e => .error e
      | .ok vs => .ok (v :: vs)

/-- The fields of the entries; the first key or value that has no meaning decides. -/
def ofEntries (c : Codec) : List (Object × Object) → Except WireError (List (String × Value))
  | [] => .ok []
  | (k, x) :: rest =>
    match keyOf k with
    | .error e => .error e
    | .ok key =>
      match c.ofObject x with
      | .error e => .error e
      | .ok v =>
        match c.ofEntries rest with
        | .error e => .error e
        | .ok fields => .ok ((key, v) :: fields)

end

/-- The bytes of a value. -/
def encode (c : Codec) (v : Value) : Except WireError Bytes :=
  match c.toObject v with
  | .ok x => .ok x.bytes
  | .error e => .error e

/-- The value of exactly these bytes. -/
def decode (c : Codec) (b : Bytes) : Except WireError Value :=
  match Object.read MessagePack.levelLimit b with
  | .error e => .error (.malformed e)
  | .ok (x, []) => c.ofObject x
  | .ok (_, rest) => .error (.trailingData rest.length)

end Codec

end Courier
