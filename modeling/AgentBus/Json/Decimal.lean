import AgentBus.Numeral.Binary64
import AgentBus.Text.Basic

/-!
# Decimal numbers of a JSON text

A number that is no integer is kept as a significand of 64 bits and a power of ten. Its digits are
taken one by one as long as the significand fits; of those that follow, the ones before the point
still count for the power of ten.

`Decimal.float?` is the float of such a number. The significand is rounded first, and the result is
multiplied or divided by a rounded power of ten. Each step goes to the nearest float, but the steps
together need not: the float of a long number may be a neighbour of the nearest one.
-/

namespace AgentBus.Json

/-- The number `significand * 10 ^ exponent`. -/
structure Decimal where
  significand : Nat
  exponent : Int
  deriving DecidableEq

/-- Takes digits into a significand as long as it fits 64 bits. Returns the significand and the
digits that are left. -/
def takeDigits (significand : Nat) : List Char → Nat × List Char
  | [] => (significand, [])
  | c :: rest =>
    if pushDigit significand c < UInt64.size then takeDigits (pushDigit significand c) rest
    else (significand, c :: rest)

/-- The greatest power of ten that is finite. -/
def maxPower : Nat := 308

/-- The float nearest to a power of ten. -/
def powerOfTen (n : Nat) : Binary64 :=
  .ofDecimal false 1 n

/-- Divides by a power of ten. One that is infinite is divided by in two steps, and after two
divisions by the greatest finite one nothing is left of a significand. -/
def divideByPower (x : Binary64) (n : Nat) : Binary64 :=
  if n ≤ maxPower then x.div (powerOfTen n)
  else if n ≤ 2 * maxPower then (x.div (powerOfTen maxPower)).div (powerOfTen (n - maxPower))
  else .ofNat 0

namespace Decimal

/-- The number with these digits before and behind the point, times a power of ten. -/
def ofDigits (whole fraction : List Char) (exponent : Int) : Decimal :=
  let (head, beforePoint) := takeDigits 0 whole
  let (significand, ignored) := takeDigits head fraction
  let taken := fraction.length - ignored.length
  { significand, exponent := exponent + beforePoint.length - taken }

/-- The float of a number, if it is finite. A zero is finite with every exponent. -/
def float? (d : Decimal) : Option Binary64 :=
  let start := Binary64.ofNat d.significand
  if d.exponent < 0 then some (divideByPower start (-d.exponent).toNat)
  else if d.exponent ≤ maxPower then
    let product := start.mul (powerOfTen d.exponent.toNat)
    if product.isInfinite then none else some product
  else if d.significand = 0 then some start
  else none

end Decimal

end AgentBus.Json
