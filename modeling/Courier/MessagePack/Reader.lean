import Courier.MessagePack.Object

/-!
# `Courier.MessagePack.Reader`: reading one object

`Object.read` reads one object from the front of a byte string and returns what follows it. It
accepts every form of the format, not only the shortest.

Nesting is limited by a budget of levels. Every object costs one level, and its body costs
more: an array, a map and a byte string one, a string and an extension two. The levels of an
array or map count for everything inside it. The budget is the argument on which the reader
recurses, so it needs no other bound.
-/

set_option autoImplicit false

namespace Courier.MessagePack

/-- Why no object could be read. -/
inductive ReadError where
  /-- The input ended where an object should begin. -/
  | noMarker
  /-- The input ended inside a number or a length. -/
  | noData
  /-- The input ended inside the bytes of a string, a byte string or an extension. -/
  | short (expected found : Nat)
  /-- The object is nested too deeply. -/
  | depthLimit
deriving DecidableEq

/-- The text of an error. -/
def ReadError.message : ReadError → String
  | .noMarker => "I/O error while reading marker byte: failed to fill whole buffer"
  | .noData => "I/O error while reading non-marker bytes: failed to fill whole buffer"
  | .short expected found =>
    "I/O error while reading non-marker bytes: Expected " ++ toString expected ++ " bytes, read "
      ++ toString found ++ " bytes"
  | .depthLimit => "depth limit exceeded"

/-- A result and what follows it in the input. -/
abbrev Read (α : Type) := Except ReadError (α × Bytes)

/-- A big-endian number of `width` bytes. -/
def readWord (width : Nat) (input : Bytes) : Read Nat :=
  let (word, rest) := input.splitAt width
  if word.length < width then .error .noData else .ok (Bytes.ofBigEndian word, rest)

/-- A length. -/
def Count.read : Count → Bytes → Read Nat
  | .fixed n, input => .ok (n, input)
  | .word width, input => readWord width input

/-- The next `n` bytes. -/
def readBytes (n : Nat) (input : Bytes) : Read Bytes :=
  let (data, rest) := input.splitAt n
  if data.length < n then .error (.short n data.length) else .ok (data, rest)

/-- The number that `n` stands for in two's complement of `width` bytes. -/
def ofTwosComplement (width n : Nat) : Int :=
  if 2 * n < Bytes.capacity width then n else (n : Int) - Bytes.capacity width

/-- Reads `n` items onto `done`, which is last item first. -/
def readItems {α : Type} (item : Bytes → Read α) :
    (n : Nat) → (done : List α) → Bytes → Read (List α)
  | 0, done, input => .ok (done.reverse, input)
  | n + 1, done, input =>
    match item input with
    | .error e => .error e
    | .ok (x, rest) => readItems item n (x :: done) rest

/-- Reads two objects in turn. -/
def readEntry {α : Type} (item : Bytes → Read α) (input : Bytes) : Read (α × α) :=
  match item input with
  | .error e => .error e
  | .ok (k, rest) =>
    match item rest with
    | .error e => .error e
    | .ok (x, rest) => .ok ((k, x), rest)

/-- Makes an object of what was read. -/
def Read.map {α β : Type} (f : α → β) : Read α → Read β
  | .error e => .error e
  | .ok (x, rest) => .ok (f x, rest)

/-- The body of an extension: its tag and its data, within a budget of levels. -/
def readExt (levels n : Nat) (input : Bytes) : Read Object :=
  if levels = 0 then .error .depthLimit
  else match input with
    | [] => .error .noData
    | tag :: rest =>
      if levels = 1 then .error .depthLimit
      else (readBytes n rest).map (.ext tag.toInt8)

/-- Reads one object within a budget of levels. -/
def Object.read : (levels : Nat) → Bytes → Read Object
  | 0, _ => .error .depthLimit
  | _ + 1, [] => .error .noMarker
  | levels + 1, marker :: input =>
    match Marker.ofByte marker with
    | .nil => .ok (.nil, input)
    | .bool b => .ok (.bool b, input)
    | .int n => .ok (.int n, input)
    | .unsigned width => (readWord width input).map fun n : Nat => .int (n : Int)
    | .signed width => (readWord width input).map fun n => .int (ofTwosComplement width n)
    | .float32 => (readWord 4 input).map fun n => .float32 (UInt32.ofNat n)
    | .float64 => (readWord 8 input).map fun n => .float64 ⟨UInt64.ofNat n⟩
    | .string count =>
      match count.read input with
      | .error e => .error e
      | .ok (n, rest) => if levels < 2 then .error .depthLimit else (readBytes n rest).map .string
    | .binary count =>
      match count.read input with
      | .error e => .error e
      | .ok (n, rest) => if levels < 1 then .error .depthLimit else (readBytes n rest).map .binary
    | .ext count =>
      match count.read input with
      | .error e => .error e
      | .ok (n, rest) => readExt levels n rest
    | .array count =>
      match count.read input with
      | .error e => .error e
      | .ok (n, rest) =>
        match levels with
        | 0 => .error .depthLimit
        | inner + 1 => (readItems (Object.read inner) n [] rest).map .array
    | .map count =>
      match count.read input with
      | .error e => .error e
      | .ok (n, rest) =>
        match levels with
        | 0 => .error .depthLimit
        | inner + 1 => (readItems (readEntry (Object.read inner)) n [] rest).map .map

/-- The levels that any input may use. -/
def levelLimit : Nat := 1024

end Courier.MessagePack
