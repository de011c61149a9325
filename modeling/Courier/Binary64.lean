/-!
# `Courier.Binary64`: double-precision numbers by their bits

A floating-point number is kept as its 64 bits, so that every number, the payloads of NaNs
included, survives being stored and sent. Arithmetic goes through exact fractions: `ofRatio`
rounds a quotient of natural numbers to the nearest number of the format, ties to the even
significand, and every conversion and operation here is exact arithmetic followed by it.
-/

set_option autoImplicit false

namespace Courier

/-- A number of the IEEE 754 format `binary64`, by its bit pattern. -/
structure Binary64 where
  /-- Sign, eleven bits of exponent and fifty-two bits of fraction. -/
  bits : UInt64
deriving DecidableEq, Inhabited

namespace Binary64

/-- The bits without the sign. -/
def magnitude (x : Binary64) : Nat := x.bits.toNat % (1 <<< 63)

/-- Whether the sign bit is set. -/
def isNegative (x : Binary64) : Bool := x.bits.toNat ≥ (1 <<< 63)

/-- The magnitude of the infinities. -/
def infinityMagnitude : Nat := 0x7ff <<< 52

/-- Whether the bits stand for no number. -/
def isNaN (x : Binary64) : Bool := x.magnitude > infinityMagnitude

/-- Whether the bits stand for a real number. -/
def isFinite (x : Binary64) : Bool := x.magnitude < infinityMagnitude

/-- A sign and a magnitude. -/
def ofMagnitude (negative : Bool) (m : Nat) : Binary64 :=
  ⟨UInt64.ofNat (m + if negative then 1 <<< 63 else 0)⟩

/-- Equality of the numbers, not of the bits: the two zeros are equal and a NaN equals
nothing. -/
def sameNumber (x y : Binary64) : Bool :=
  !x.isNaN && !y.isNaN && (x.bits == y.bits || (x.magnitude == 0 && y.magnitude == 0))

/-- The significand `m` and the exponent `q` with `|x| = m * 2 ^ q`, for a finite `x`. -/
def decompose (x : Binary64) : Nat × Int :=
  let fraction := x.magnitude % (1 <<< 52)
  let exponent : Nat := x.magnitude >>> 52
  if exponent = 0 then (fraction, -1074) else (fraction + (1 <<< 52), (exponent : Int) - 1075)

/-- The quotient of two natural numbers rounded to an integer, a tie to the even one. -/
def roundQuotient (num den : Nat) : Nat :=
  let q := num / den
  let r := num % den
  if 2 * r > den || (2 * r = den && q % 2 = 1) then q + 1 else q

/-- The quotient `num / den` divided by `2 ^ q` and rounded to an integer. -/
def roundScaled (num den : Nat) (q : Int) : Nat :=
  if q ≥ 0 then roundQuotient num (den <<< q.toNat) else roundQuotient (num <<< (-q).toNat) den

/-- The magnitude nearest to `num / den`: with the exponent that leaves fifty-three bits of
significand, or the least exponent of the format if that is more. A significand rounded up to
the next power of two carries into the exponent by itself. -/
def magnitudeOfRatio (num den : Nat) : Nat :=
  if num = 0 then 0
  else
    let guess : Int := (Nat.log2 num : Int) - (Nat.log2 den : Int) - 52
    -- the quotient of the logarithms is at most one too large
    let fits := if guess ≥ 0 then den <<< (guess.toNat + 52) ≤ num
      else den <<< 52 ≤ num <<< (-guess).toNat
    let q := max (if fits then guess else guess - 1) (-1074)
    if q > 971 then infinityMagnitude
    else
      let m := roundScaled num den q
      min infinityMagnitude (m + ((q + 1074).toNat <<< 52))

/-- The number nearest to a fraction. -/
def ofRatio (negative : Bool) (num den : Nat) : Binary64 :=
  ofMagnitude negative (magnitudeOfRatio num den)

/-- The number nearest to an integer. -/
def ofInt (n : Int) : Binary64 := ofRatio (n < 0) n.natAbs 1

/-- The number nearest to `digits * 10 ^ exponent`. Exponents far outside the range are
settled before the power is formed. -/
def ofDecimal (negative : Bool) (digits : Nat) (exponent : Int) : Binary64 :=
  let size := (Nat.log2 digits : Int)
  if digits = 0 then ofMagnitude negative 0
  else if exponent > 400 then ofMagnitude negative infinityMagnitude
  else if 3 * exponent + size < -1200 then ofMagnitude negative 0
  else if exponent ≥ 0 then ofRatio negative (digits * Nat.pow 10 exponent.toNat) 1
  else ofRatio negative digits (Nat.pow 10 (-exponent).toNat)

/-- The numerator and denominator of the magnitude of a finite number. -/
def toRatio (x : Binary64) : Nat × Nat :=
  let (m, q) := x.decompose
  if q ≥ 0 then (m <<< q.toNat, 1) else (m, 1 <<< (-q).toNat)

/-- The product of two finite numbers, rounded. -/
def mul (x y : Binary64) : Binary64 :=
  let (a, b) := x.toRatio
  let (c, d) := y.toRatio
  ofRatio (x.isNegative != y.isNegative) (a * c) (b * d)

/-- The quotient of two finite numbers, rounded; the divisor is not zero. -/
def div (x y : Binary64) : Binary64 :=
  let (a, b) := x.toRatio
  let (c, d) := y.toRatio
  ofRatio (x.isNegative != y.isNegative) (a * d) (b * c)

/-- The same number with the other sign. -/
def neg (x : Binary64) : Binary64 := ofMagnitude (!x.isNegative) x.magnitude

/-- The double-precision number that a single-precision bit pattern stands for. A NaN keeps
the leading bits of its payload and becomes quiet. -/
def ofBinary32 (bits : UInt32) : Binary64 :=
  let negative := decide (bits.toNat ≥ (1 <<< 31))
  let exponent := (bits.toNat >>> 23) % 256
  let fraction := bits.toNat % (1 <<< 23)
  if exponent = 0xff then
    if fraction = 0 then ofMagnitude negative infinityMagnitude
    else ofMagnitude negative (infinityMagnitude + (fraction <<< 29) % (1 <<< 51) + (1 <<< 51))
  else if exponent = 0 then ofRatio negative fraction (1 <<< 149)
  else ofMagnitude negative ((fraction <<< 29) + ((exponent + 896) <<< 52))

end Binary64

end Courier
