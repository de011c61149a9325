import Courier.Binary64
import Courier.Decimal.Reader

/-!
# `Courier.Yaml.Plain`: what plain scalars stand for

A plain scalar can be a truth value, an integer in one of four bases, a float, or nothing at all.
Digits behind a leading zero are no number.
-/

set_option autoImplicit false

namespace Courier.Yaml.Plain

/-- Whether a scalar stands for nothing. -/
def isNull (s : String) : Bool := s = "null" || s = "Null" || s = "NULL" || s = "~"

/-- The truth value that a scalar is. -/
def bool? (s : String) : Option Bool :=
  if s = "true" ∨ s = "True" ∨ s = "TRUE" then some true
  else if s = "false" ∨ s = "False" ∨ s = "FALSE" then some false
  else none

/-- The digit that a character is in a base. -/
def digit? (base : Nat) (c : Char) : Option Nat :=
  let n := c.toNat
  let d :=
    if 48 ≤ n ∧ n ≤ 57 then n - 48
    else if 97 ≤ n ∧ n ≤ 122 then n - 87
    else if 65 ≤ n ∧ n ≤ 90 then n - 55
    else base
  if d < base then some d else none

/-- The number of at least one digit. -/
def natural? (base : Nat) (cs : List Char) : Option Nat :=
  if cs.isEmpty then none
  else (cs.mapM (digit? base)).map (·.foldl (fun n d => n * base + d) 0)

/-- The number with a mark of its base in front. -/
def marked? : List Char → Option Nat
  | '0' :: 'x' :: cs => natural? 16 cs
  | '0' :: 'o' :: cs => natural? 8 cs
  | '0' :: 'b' :: cs => natural? 2 cs
  | _ => none

/-- Whether digits begin with a zero that is not all of them. -/
def hasLeadingZero (cs : List Char) : Bool :=
  let cs :=
    match cs with
    | '-' :: rest => rest
    | '+' :: rest => rest
    | cs => cs
  match cs with
  | '0' :: c :: rest => (c :: rest).all (·.isDigit)
  | _ => false

/-- The integer that a scalar is. -/
def integer? (s : String) : Option Int :=
  let cs := s.toList
  let (negative, digits) :=
    match cs with
    | '+' :: rest => (false, rest)
    | '-' :: rest => (true, rest)
    | cs => (false, cs)
  let sign (n : Nat) : Int := if negative then -(n : Int) else n
  match marked? digits with
  | some n => some (sign n)
  | none => if hasLeadingZero cs then none else (natural? 10 digits).map sign

/-- The integer of 64 bits without a sign that a scalar is. A minus is never part of one. -/
def uint64? (s : String) : Option UInt64 :=
  if s.startsWith "-" then none
  else (integer? s).bind fun n =>
    if n < UInt64.size then some (UInt64.ofNat n.toNat) else none

/-- The integer of 64 bits with a sign that a scalar is. -/
def int64? (s : String) : Option Int64 :=
  (integer? s).bind fun n =>
    if -0x8000000000000000 ≤ n ∧ n < 0x8000000000000000 then some (Int64.ofInt n) else none

/-- Whether a scalar is a float. -/
def isFloat (s : String) : Bool :=
  let unsigned :=
    match s.toList with
    | '+' :: rest => rest
    | cs => cs
  let word := String.ofList unsigned
  if [".inf", ".Inf", ".INF"].contains word || ["-.inf", "-.Inf", "-.INF"].contains s
    || [".nan", ".NaN", ".NAN"].contains s then true
  else if s.startsWith "++" || s.startsWith "+-" then false
  else (Decimal.read? word).any (·.isFinite)

/-- Whether an integer of 128 bits is meant. -/
def isInteger (s : String) : Bool :=
  (integer? s).any fun n =>
    -0x80000000000000000000000000000000 ≤ n && n < 0x100000000000000000000000000000000

end Courier.Yaml.Plain
