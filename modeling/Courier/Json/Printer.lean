import Courier.Decimal.Shortest
import Courier.Json
import Courier.Text.Hex

/-!
# `Courier.Json.Printer`: JSON text

Two layouts: `compact` without any space, and `pretty` with one item per line, indented by two
spaces per level. Strings escape quotation marks, backslashes and control characters and nothing
else. Numbers with a fraction have the fewest digits that read back, without an exponent if
their leading digit stands at a power of ten from -5 to 15.
-/

set_option autoImplicit false

namespace Courier.Json

/-- The text of a finite float. -/
def floatChars (x : Binary64) : List Char :=
  let d := Decimal.shortest x
  let digits := if -5 ≤ d.lead ∧ d.lead ≤ 15 then d.positional true else d.scientific
  if x.isNegative then '-' :: digits else digits

/-- The text of a number. There is none for infinities and for what is no number, and null
stands for them. -/
def numberChars : Number → List Char
  | .natural n => Nat.toDigits 10 n.toNat
  | .negative n => '-' :: Nat.toDigits 10 n.toInt.natAbs
  | .float x => if x.isFinite then floatChars x else ['n', 'u', 'l', 'l']

/-- How one character stands in a string. -/
def escapeChar (c : Char) : List Char :=
  let n := c.toNat
  if n = 0x22 then ['\\', '"']
  else if n = 0x5c then ['\\', '\\']
  else if n = 0x08 then ['\\', 'b']
  else if n = 0x09 then ['\\', 't']
  else if n = 0x0a then ['\\', 'n']
  else if n = 0x0c then ['\\', 'f']
  else if n = 0x0d then ['\\', 'r']
  else if n < 0x20 then ['\\', 'u', '0', '0', Text.Hex.digit (n / 16), Text.Hex.digit (n % 16)]
  else [c]

/-- A string between quotation marks. -/
def stringChars (s : String) : List Char := '"' :: s.toList.flatMap escapeChar ++ ['"']

mutual

/-- The text without spaces. -/
def compact : Json → List Char
  | .null => ['n', 'u', 'l', 'l']
  | .bool true => ['t', 'r', 'u', 'e']
  | .bool false => ['f', 'a', 'l', 's', 'e']
  | .number n => numberChars n
  | .string s => stringChars s
  | .array items => '[' :: compactItems items
  | .object fields => '\x7b' :: compactFields fields

/-- The items and the closing bracket. -/
def compactItems : List Json → List Char
  | [] => [']']
  | [x] => x.compact ++ [']']
  | x :: y :: rest => x.compact ++ ',' :: compactItems (y :: rest)

/-- The fields and the closing brace. -/
def compactFields : List (String × Json) → List Char
  | [] => ['\x7d']
  | [(k, x)] => stringChars k ++ ':' :: x.compact ++ ['\x7d']
  | (k, x) :: p :: rest => stringChars k ++ ':' :: x.compact ++ ',' :: compactFields (p :: rest)

end

/-- A new line at a level of indentation. -/
def newLine (level : Nat) : List Char := '\n' :: List.replicate (2 * level) ' '

mutual

/-- The text with one item per line, inside `level` containers. -/
def prettyAt (level : Nat) : Json → List Char
  | .null => ['n', 'u', 'l', 'l']
  | .bool true => ['t', 'r', 'u', 'e']
  | .bool false => ['f', 'a', 'l', 's', 'e']
  | .number n => numberChars n
  | .string s => stringChars s
  | .array [] => ['[', ']']
  | .array (x :: rest) => '[' :: prettyItems (level + 1) (x :: rest) ++ newLine level ++ [']']
  | .object [] => ['\x7b', '\x7d']
  | .object (p :: rest) =>
    '\x7b' :: prettyFields (level + 1) (p :: rest) ++ newLine level ++ ['\x7d']

/-- The items, each on a line of its own. -/
def prettyItems (level : Nat) : List Json → List Char
  | [] => []
  | [x] => newLine level ++ prettyAt level x
  | x :: y :: rest => newLine level ++ prettyAt level x ++ ',' :: prettyItems level (y :: rest)

/-- The fields, each on a line of its own. -/
def prettyFields (level : Nat) : List (String × Json) → List Char
  | [] => []
  | [(k, x)] => newLine level ++ stringChars k ++ ':' :: ' ' :: prettyAt level x
  | (k, x) :: p :: rest =>
    newLine level ++ stringChars k ++ ':' :: ' ' :: prettyAt level x ++
      ',' :: prettyFields level (p :: rest)

end

/-- The text with one item per line. -/
def pretty (x : Json) : List Char := prettyAt 0 x

end Courier.Json
