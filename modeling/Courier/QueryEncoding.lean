import Courier.Text.Base32
import Courier.Text.Case
import Courier.Text.Hex

/-!
# `Courier.QueryEncoding`: bytes in a query string

A request without a body carries its payload in the query, as hexadecimal digits or in base 32.
-/

set_option autoImplicit false

namespace Courier

/-- How bytes are written in a query string. -/
inductive QueryEncoding where
  | hex
  | base32
deriving DecidableEq, Inhabited

namespace QueryEncoding

/-- The name of an encoding. -/
def name : QueryEncoding → String
  | .hex => "hex"
  | .base32 => "base32"

/-- Reads the name of an encoding in any case, with or without the hyphen. -/
def parse (s : String) : Except String QueryEncoding :=
  let lower := Text.lowercase s
  if lower = "hex" then .ok .hex
  else if lower = "base32" ∨ lower = "base-32" then .ok .base32
  else .error ("unknown query encoding: " ++ lower)

/-- The text of a byte string. -/
def encode : QueryEncoding → Bytes → String
  | .hex, b => String.ofList (Text.Hex.encode b)
  | .base32, b => String.ofList (Text.Base32.encode b)

/-- The byte string of a text. -/
def decode? : QueryEncoding → String → Option Bytes
  | .hex, s => Text.Hex.decode? s.toList
  | .base32, s => Text.Base32.decode? s.toList

end QueryEncoding

end Courier
