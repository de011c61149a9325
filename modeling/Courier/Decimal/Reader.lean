import Courier.Binary64

/-!
# `Courier.Decimal.Reader`: floats from text

A number has a sign, digits with at most one point among them, and an exponent; only one digit
must be there. Words for what is no real number are read in any case.
-/

set_option autoImplicit false

namespace Courier.Decimal

/-- The digits at the front of a text behind those of a number, how many they are, and the
rest. -/
def readDigits : (number count : Nat) → List Char → Nat × Nat × List Char
  | n, k, [] => (n, k, [])
  | n, k, c :: cs =>
    if c.isDigit then readDigits (n * 10 + (c.toNat - '0'.toNat)) (k + 1) cs else (n, k, c :: cs)

/-- The exponent that a text is, with its sign. -/
def readExponent? (cs : List Char) : Option Int :=
  let (negative, cs) :=
    match cs with
    | '-' :: rest => (true, rest)
    | '+' :: rest => (false, rest)
    | cs => (false, cs)
  match readDigits 0 0 cs with
  | (n, _ + 1, []) => some (if negative then -(n : Int) else n)
  | _ => none

/-- The number without its sign. -/
def readUnsigned? (negative : Bool) (cs : List Char) : Option Binary64 :=
  let (whole, wholeCount, cs) := readDigits 0 0 cs
  let (number, count, cs) :=
    match cs with
    | '.' :: rest => readDigits whole 0 rest
    | cs => (whole, 0, cs)
  if wholeCount + count = 0 then none
  else
    match cs with
    | [] => some (Binary64.ofDecimal negative number (-(count : Int)))
    | c :: rest =>
      if c = 'e' ∨ c = 'E' then
        (readExponent? rest).map fun e => Binary64.ofDecimal negative number (e - count)
      else none

/-- The float that a text stands for. -/
def read? (s : String) : Option Binary64 :=
  let (negative, cs) :=
    match s.toList with
    | '-' :: rest => (true, rest)
    | '+' :: rest => (false, rest)
    | cs => (false, cs)
  let word := String.ofList (cs.map Char.toLower)
  if word = "inf" ∨ word = "infinity" then
    some (Binary64.ofMagnitude negative Binary64.infinityMagnitude)
  else if word = "nan" then some (Binary64.ofMagnitude negative (0x7ff8 <<< 48))
  else readUnsigned? negative cs

end Courier.Decimal
