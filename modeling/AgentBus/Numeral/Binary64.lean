/-!
# Numbers of the binary64 format

A `Binary64` is a sign and the 63 bits below it, read as one number: exponent field above, fraction
field below. Larger magnitudes are larger values, and the greatest one is infinity; a value that is
not a number cannot be written in a command and has no place in the type.

* `Binary64.ofQuotient` rounds a quotient to the nearest value, ties to even; `ofNat`, `ofDecimal`,
  `mul` and `div` round a natural number, `mantissa * 10 ^ exponent`, a product and a quotient.
* `Binary64.parts` gives a finite magnitude as `significand * 2 ^ exponent`.
* `Binary64.sameNumber` is equality of values, for which both zeros are one number.
-/

namespace AgentBus

/-- The magnitude bits of infinity: exponent field all ones, fraction field zero. -/
def infinityBits : Nat := 0x7ff0000000000000

/-- The weight of the sign bit. -/
def signBit : Nat := 0x8000000000000000

/-- The weight of the leading bit of a significand, which the fraction field leaves out. -/
def leadingBit : Nat := 0x10000000000000

/-- A number of the binary64 format: its sign and its other 63 bits. -/
structure Binary64 where
  negative : Bool
  magnitude : Nat
  le_infinity : magnitude ≤ infinityBits
  deriving DecidableEq

namespace Binary64

/-- The number with these magnitude bits; everything beyond the finite numbers is infinity. -/
def ofMagnitude (negative : Bool) (magnitude : Nat) : Binary64 :=
  ⟨negative, min magnitude infinityBits, Nat.min_le_right ..⟩

/-- All 64 bits, the sign first. -/
def bits (x : Binary64) : Nat :=
  if x.negative then signBit + x.magnitude else x.magnitude

def isInfinite (x : Binary64) : Bool :=
  x.magnitude = infinityBits

/-- Equality of values: the two zeros are the same number. -/
def sameNumber (x y : Binary64) : Bool :=
  x.magnitude = y.magnitude && (x.negative = y.negative || x.magnitude = 0)

/-- The least exponent of two that a finite number can have. -/
def minExponent : Int := -1074

/-- A finite magnitude as `significand * 2 ^ exponent`. -/
def parts (x : Binary64) : Nat × Int :=
  let field := x.magnitude / leadingBit
  let fraction := x.magnitude % leadingBit
  if field = 0 then (fraction, minExponent)
  else (leadingBit + fraction, minExponent + (field - 1 : Nat))

/-- The integer nearest to `num / den`, ties to even. -/
def roundDiv (num den : Nat) : Nat :=
  let q := num / den
  let twice := 2 * (num % den)
  if twice < den then q
  else if den < twice then q + 1
  else if q % 2 = 0 then q else q + 1

/-- `num / den * 2 ^ k` as a fraction. -/
def scale (num den : Nat) (k : Int) : Nat × Nat :=
  if 0 ≤ k then (num <<< k.toNat, den) else (num, den <<< (-k).toNat)

/-- The magnitude bits nearest to the positive quotient `num / den`.

The exponent is chosen so that the significand has 53 bits, or as many as the least exponent
leaves; a significand rounded up to 54 bits carries into the exponent field by itself. -/
def magnitudeOfQuotient (num den : Nat) : Nat :=
  let size : Int := (num.log2 : Int) - (den.log2 : Int)
  let guess := max (size - 53) minExponent
  let (n, d) := scale num den (-guess)
  let exponent := if n / d < 2 * leadingBit then guess else guess + 1
  let (n, d) := scale num den (-exponent)
  (exponent - minExponent).toNat * leadingBit + roundDiv n d

/-- The number nearest to `num / den`; the denominator is positive. -/
def ofQuotient (negative : Bool) (num den : Nat) : Binary64 :=
  ofMagnitude negative (if num = 0 then 0 else magnitudeOfQuotient num den)

/-- The number nearest to a natural number. -/
def ofNat (n : Nat) : Binary64 :=
  ofQuotient false n 1

/-- A finite magnitude as a quotient. -/
def quotient (x : Binary64) : Nat × Nat :=
  scale x.parts.1 1 x.parts.2

/-- The number nearest to the product of two finite numbers. -/
def mul (x y : Binary64) : Binary64 :=
  let (a, b) := x.quotient
  let (c, d) := y.quotient
  ofQuotient (x.negative != y.negative) (a * c) (b * d)

/-- The number nearest to the quotient of two finite numbers, the second of which is not zero. -/
def div (x y : Binary64) : Binary64 :=
  let (a, b) := x.quotient
  let (c, d) := y.quotient
  ofQuotient (x.negative != y.negative) (a * d) (b * c)

/-- The number of decimal digits of a positive number. -/
def decimalSize (n : Nat) : Nat :=
  (Nat.toDigits 10 n).length

/-- The number nearest to `mantissa * 10 ^ exponent`. Exponents beyond the range of the format are
answered without computing the power. -/
def ofDecimal (negative : Bool) (mantissa : Nat) (exponent : Int) : Binary64 :=
  if mantissa = 0 then ofMagnitude negative 0
  else
    let top := exponent + decimalSize mantissa
    if 310 < top then ofMagnitude negative infinityBits
    else if top < -325 then ofMagnitude negative 0
    else if 0 ≤ exponent then
      ofQuotient negative (mantissa * Nat.pow 10 exponent.toNat) 1
    else ofQuotient negative mantissa (Nat.pow 10 (-exponent).toNat)

end Binary64

end AgentBus
