import Courier.Decimal.Shortest
import Courier.MessagePack.Object
import Courier.Text.Quoted

/-!
# `Courier.MessagePack.Notation`: objects for people

The text by which a message shows an object: brackets and commas for containers, quoted
strings, and a list of numbers for bytes, those of a string that is not text included.
-/

set_option autoImplicit false

namespace Courier.MessagePack

/-- The bytes as a list of numbers. -/
def bytesNotation (b : Bytes) : String :=
  "[" ++ String.intercalate ", " (b.map fun d => toString d.toNat) ++ "]"

mutual

/-- The text that shows an object. -/
def Object.notate : Object → String
  | .nil => "nil"
  | .bool b => if b then "true" else "false"
  | .int n => toString n
  | .float32 bits => String.ofList (Decimal.plainText32 bits)
  | .float64 x => String.ofList (Decimal.plainText64 x)
  | .string b =>
    match Bytes.toString? b with
    | some s => Text.quoted s
    | none => bytesNotation b
  | .binary b => bytesNotation b
  | .array items => "[" ++ String.intercalate ", " (notateItems items) ++ "]"
  | .map entries => "\x7b" ++ String.intercalate ", " (notateEntries entries) ++ "\x7d"
  | .ext tag data => "[" ++ toString tag.toInt ++ ", " ++ bytesNotation data ++ "]"

/-- The texts of the items. -/
def notateItems : List Object → List String
  | [] => []
  | x :: rest => x.notate :: notateItems rest

/-- The texts of the entries, key and value. -/
def notateEntries : List (Object × Object) → List String
  | [] => []
  | (k, x) :: rest => (k.notate ++ ": " ++ x.notate) :: notateEntries rest

end

end Courier.MessagePack
