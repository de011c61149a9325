import Courier.Bytes

/-!
# `Courier.Text.Base64`: bytes as letters of an alphabet of 64

Four letters stand for three bytes. Blanks between the letters mean nothing. Equals signs can
fill up the last four letters, which stand for two bytes or one; they can also be missing. Letters
are looked at in blocks of eight, so that of two faults in one block a letter out of the alphabet
counts before an equals sign in the wrong place.
-/

set_option autoImplicit false

namespace Courier.Text.Base64

/-- Why a text does not stand for bytes. -/
inductive Fault where
  | invalidCharacter (b : UInt8)
  /-- Letters follow an equals sign. -/
  | prematurePadding
  /-- The last letters do not stand for whole bytes. -/
  | invalidTrailingPadding
deriving DecidableEq

/-- The text of a fault. -/
def Fault.message : Fault → String
  | .invalidCharacter b => "InvalidCharacter(" ++ toString b.toNat ++ ")"
  | .prematurePadding => "PrematurePadding"
  | .invalidTrailingPadding => "InvalidTrailingPadding"

/-- A letter. -/
inductive Letter where
  | digit (value : Nat)
  /-- The equals sign. -/
  | padding
deriving DecidableEq

/-- Whether a byte is a blank. -/
def isBlank (b : UInt8) : Bool := (9 ≤ b && b ≤ 13) || b = 32

/-- The letter that a byte is. -/
def letter? (b : UInt8) : Option Letter :=
  if 65 ≤ b ∧ b ≤ 90 then some (.digit (b.toNat - 65))
  else if 97 ≤ b ∧ b ≤ 122 then some (.digit (b.toNat - 97 + 26))
  else if 48 ≤ b ∧ b ≤ 57 then some (.digit (b.toNat - 48 + 52))
  else if b = 43 then some (.digit 62)
  else if b = 47 then some (.digit 63)
  else if b = 61 then some .padding
  else none

/-- The value of a letter. -/
def Letter.value : Letter → Nat
  | .digit v => v
  | .padding => 0

/-- The number that letters are in base 64. -/
def number (ls : List Letter) : Nat := ls.foldl (fun n l => n * 64 + l.value) 0

/-- The bytes of at most four letters at the end. -/
def lastBytes : List Letter → Except Fault Bytes
  | [] => .ok []
  | [a@(.digit _), b@(.digit _)] => .ok (Bytes.bigEndian 1 (number [a, b] / 16))
  | [a@(.digit _), b@(.digit _), .padding, .padding] => .ok (Bytes.bigEndian 1 (number [a, b] / 16))
  | [a@(.digit _), b@(.digit _), c@(.digit _)] => .ok (Bytes.bigEndian 2 (number [a, b, c] / 4))
  | [a@(.digit _), b@(.digit _), c@(.digit _), .padding] =>
    .ok (Bytes.bigEndian 2 (number [a, b, c] / 4))
  | [a@(.digit _), b@(.digit _), c@(.digit _), d@(.digit _)] =>
    .ok (Bytes.bigEndian 3 (number [a, b, c, d]))
  | _ => .error .invalidTrailingPadding

/-- The bytes of a block at the end: of up to eight letters, of which the last four or fewer can
be filled up. -/
def endOfBlock (block : List Letter) : Except Fault Bytes :=
  if block.length > 4 then
    if (block.take 4).contains .padding then .error .prematurePadding
    else (lastBytes (block.drop 4)).map (Bytes.bigEndian 3 (number (block.take 4)) ++ ·)
  else lastBytes block

/-- The bytes of a text whose last letters, less than a block or one, have been read already. The
bytes read before are given last first. -/
def decodeFrom (out : Bytes) (block : List Letter) : Bytes → Except Fault Bytes
  | [] => (endOfBlock block).map (out.reverse ++ ·)
  | b :: rest =>
    if isBlank b then decodeFrom out block rest
    else
      match letter? b with
      | none => .error (.invalidCharacter b)
      | some l =>
        if block.length < 8 then decodeFrom out (block ++ [l]) rest
        else if block.contains .padding then .error .prematurePadding
        else decodeFrom ((Bytes.bigEndian 6 (number block)).reverse ++ out) [l] rest

/-- The bytes that a text stands for. -/
def decode (text : Bytes) : Except Fault Bytes := decodeFrom [] [] text

end Courier.Text.Base64
