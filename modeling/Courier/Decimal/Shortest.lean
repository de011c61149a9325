import Courier.Binary64

/-!
# `Courier.Decimal.Shortest`: the fewest digits that read back

The decimal text of a floating-point number is the shortest one that rounds back to it, and of
those the nearest. `shortest` finds it by exact arithmetic: for one digit, two digits, and so on
it tests the two neighbours of the number on that decimal grid. Two layouts write the result:
`positional`, which never uses an exponent, and `scientific`.
-/

set_option autoImplicit false

namespace Courier

/-- The number `digits * 10 ^ exponent`. -/
structure Decimal where
  /-- The significant digits. -/
  digits : Nat
  /-- The power of ten of the last digit. -/
  exponent : Int
deriving DecidableEq, Inhabited

namespace Decimal

/-- Compares `a * 2 ^ p` with `b * 10 ^ k`. -/
def compareScaled (a : Nat) (p : Int) (b : Nat) (k : Int) : Ordering :=
  compare ((a <<< p.toNat) * Nat.pow 10 (-k).toNat) ((b <<< (-p).toNat) * Nat.pow 10 k.toNat)

/-- The integer part of `a * 2 ^ p / 10 ^ k`. -/
def scaledFloor (a : Nat) (p : Int) (k : Int) : Nat :=
  (a <<< p.toNat) * Nat.pow 10 (-k).toNat / (Nat.pow 10 k.toNat <<< (-p).toNat)

/-- A binary format: the significand of a power of two and the least exponent. -/
structure Format where
  hidden : Nat
  least : Int

/-- The format of double precision. -/
def Format.binary64 : Format := ⟨1 <<< 52, -1074⟩

/-- The format of single precision. -/
def Format.binary32 : Format := ⟨1 <<< 23, -149⟩

/-- Whether a decimal rounds to `m * 2 ^ q`. The interval that does reaches halfway to the two
neighbours, and below a power of two the neighbour is only half as far away. The ends belong
to it if `m` is even. -/
def roundsTo (f : Format) (m : Nat) (q : Int) (d : Decimal) : Bool :=
  let low := 4 * m - (if m = f.hidden ∧ q > f.least then 1 else 2)
  let high := 4 * m + 2
  match compareScaled low (q - 2) d.digits d.exponent,
    compareScaled high (q - 2) d.digits d.exponent with
  | .lt, .gt => true
  | .eq, _ => m % 2 = 0
  | _, .eq => m % 2 = 0
  | _, _ => false

/-- The point of the grid `10 ^ k` that rounds to `m * 2 ^ q`, if there is one: of the two
neighbours the nearer, and of two equally near the even one. -/
def onGrid (f : Format) (m : Nat) (q : Int) (k : Int) : Option Decimal :=
  let below : Decimal := ⟨scaledFloor m q k, k⟩
  let above : Decimal := ⟨below.digits + 1, k⟩
  match roundsTo f m q below, roundsTo f m q above with
  | false, false => none
  | true, false => some below
  | false, true => some above
  | true, true =>
    match compareScaled (2 * m) q (2 * below.digits + 1) k with
    | .lt => some below
    | .gt => some above
    | .eq => some (if below.digits % 2 = 0 then below else above)

/-- The power of ten of the leading digit of `m * 2 ^ q`: the first of a few candidates below
an estimate from the binary logarithm whose power does not exceed the number. -/
def leadingPower (m : Nat) (q : Int) : Int :=
  let estimate : Int := ((Nat.log2 m : Int) + q) * 30103 / 100000 + 2
  let candidates := (List.range 5).map fun i => estimate - Int.ofNat i
  (candidates.find? fun k => compareScaled m q 1 k != .lt).getD (estimate - 5)

/-- The grid with the fewest digits that holds a point for the number, tried from `size`
digits on; `left` more grids may be tried. -/
def shortestFrom (f : Format) (m : Nat) (q : Int) (lead : Int) (size : Nat) : (left : Nat) → Decimal
  | 0 => ⟨scaledFloor m q (lead + 1 - size), lead + 1 - size⟩
  | left + 1 =>
    match onGrid f m q (lead + 1 - size) with
    | some d => d
    | none => shortestFrom f m q lead (size + 1) left

/-- The same number with one digit, if it is ten units of its last place. Only a grid of one
digit gives such a number: on a finer one the power of ten would have been found before. -/
def carry (d : Decimal) : Decimal := if d.digits = 10 then ⟨1, d.exponent + 1⟩ else d

/-- The shortest decimal that rounds to `m * 2 ^ q`. Seventeen digits always suffice. -/
def shortestOf (f : Format) (m : Nat) (q : Int) : Decimal :=
  if m = 0 then ⟨0, 0⟩ else (shortestFrom f m q (leadingPower m q) 1 17).carry

/-- The shortest decimal that rounds to the magnitude of `x`, for a finite `x`. -/
def shortest (x : Binary64) : Decimal :=
  shortestOf .binary64 x.decompose.1 x.decompose.2

/-- The digits of a natural number. -/
def digitChars (n : Nat) : List Char := Nat.toDigits 10 n

/-- The power of ten of the leading digit. -/
def lead (d : Decimal) : Int := d.exponent + (digitChars d.digits).length - 1

/-- The layout without an exponent; `pointed` writes a point and a zero after an integer. -/
def positional (pointed : Bool) (d : Decimal) : List Char :=
  let ds := digitChars d.digits
  if d.exponent ≥ 0 then
    let whole := if d.digits = 0 then ['0'] else ds ++ List.replicate d.exponent.toNat '0'
    if pointed then whole ++ ['.', '0'] else whole
  else
    let places := (-d.exponent).toNat
    if ds.length > places then ds.take (ds.length - places) ++ '.' :: ds.drop (ds.length - places)
    else '0' :: '.' :: List.replicate (places - ds.length) '0' ++ ds

/-- The layout with one digit before the point and a signed exponent. -/
def scientific (d : Decimal) : List Char :=
  let exponent := (if d.lead < 0 then ['e', '-'] else ['e', '+']) ++ digitChars d.lead.natAbs
  match digitChars d.digits with
  | [] => exponent
  | [c] => c :: exponent
  | c :: cs => c :: '.' :: cs ++ exponent

/-- The sign and the positional layout of a finite number, and words for the others. -/
def signedText (negative finite nan : Bool) (d : Decimal) : List Char :=
  let sign := if negative then ['-'] else []
  if nan then ['N', 'a', 'N']
  else if finite then sign ++ positional false d
  else sign ++ ['i', 'n', 'f']

/-- The plain text of a double-precision number. -/
def plainText64 (x : Binary64) : List Char :=
  signedText x.isNegative x.isFinite x.isNaN (shortest x)

/-- The plain text of a single-precision number, with the fewest digits that single precision
needs. -/
def plainText32 (bits : UInt32) : List Char :=
  let exponent : Nat := (bits.toNat >>> 23) % 256
  let fraction := bits.toNat % (1 <<< 23)
  let d := if exponent = 0 then shortestOf .binary32 fraction (-149)
    else shortestOf .binary32 (fraction + (1 <<< 23)) ((exponent : Int) - 150)
  signedText (bits.toNat ≥ (1 <<< 31)) (exponent != 0xff) (exponent = 0xff && fraction != 0) d

end Decimal

end Courier
