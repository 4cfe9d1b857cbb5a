import AgentBus.Numeral.Binary64

/-!
# The fewest digits that read back

`Binary64.shortest` finds, for a positive finite number, the decimal `digits * 10 ^ exponent` with
the fewest digits among those that round to it, and of these the nearest one; of two equally near
ones the larger. For 1, 2, … 17 digits it looks at the two neighbours of the number on the grid of
decimals with that many digits, in exact arithmetic, and takes the first grid that has a hit.

`Binary64.text` writes the result positionally: never an exponent, and no point without digits
behind it.
-/

namespace AgentBus.Binary64

/-- A positive decimal `digits * 10 ^ exponent`. -/
structure Decimal where
  digits : Nat
  exponent : Int
  deriving DecidableEq

/-- The reals that round to a number, as multiples of a common unit `num / den`. -/
structure Interval where
  low : Nat
  value : Nat
  high : Nat
  closed : Bool
  num : Nat
  den : Nat

/-- The reals that round to a finite number. The neighbour below a power of two is only half as
far away as the one above; the ends belong to the number if its significand is even. -/
def interval (x : Binary64) : Interval :=
  let (significand, exponent) := x.parts
  let narrow := significand = leadingBit && minExponent < exponent
  let (num, den) := scale 1 1 (exponent - 2)
  { low := 4 * significand - (if narrow then 1 else 2)
    value := 4 * significand
    high := 4 * significand + 2
    closed := significand % 2 = 0
    num, den }

/-- Whether `digits * stepNum / stepDen` lies in the interval. -/
def Interval.holds (i : Interval) (digits stepNum stepDen : Nat) : Bool :=
  let point := digits * stepNum * i.den
  let low := i.low * i.num * stepDen
  let high := i.high * i.num * stepDen
  if i.closed then low ≤ point && point ≤ high else low < point && point < high

/-- `10 ^ k` as a fraction. -/
def powerOfTen (k : Int) : Nat × Nat :=
  if 0 ≤ k then (Nat.pow 10 k.toNat, 1) else (1, Nat.pow 10 (-k).toNat)

/-- How many times ten has to be multiplied to `num` before it reaches `den`. -/
def leadingZeros (num den : Nat) : Nat → Nat
  | 0 => 0
  | fuel + 1 => if den ≤ 10 * num then 0 else leadingZeros (10 * num) den fuel + 1

/-- The exponent `p` with `10 ^ (p - 1) ≤ num / den < 10 ^ p`. -/
def decimalExponent (num den : Nat) : Int :=
  if den ≤ num then decimalSize (num / den) else -(leadingZeros num den 400 : Int)

/-- A decimal without the zero that rounding up to a power of ten leaves at its end. -/
def Decimal.carried (d : Decimal) : Decimal :=
  if d.digits % 10 = 0 then ⟨d.digits / 10, d.exponent + 1⟩ else d

/-- The neighbour on the grid of this step that lies in the interval and is nearest to the
number. -/
def Interval.onGrid (i : Interval) (step : Int) : Option Decimal :=
  let (stepNum, stepDen) := powerOfTen step
  let num := i.value * i.num * stepDen
  let den := i.den * stepNum
  let below := num / den
  let nearerBelow := 2 * (num % den) < den
  let first := if nearerBelow then below else below + 1
  let second := if nearerBelow then below + 1 else below
  if i.holds first stepNum stepDen then some ⟨first, step⟩
  else if i.holds second stepNum stepDen then some ⟨second, step⟩
  else none

/-- The shortest decimal that rounds to a positive finite number. -/
def shortest (x : Binary64) : Decimal :=
  let i := x.interval
  let top := decimalExponent (i.value * i.num) i.den
  (((List.range 17).findSome? fun k => i.onGrid (top - (k + 1 : Nat))).getD ⟨0, 0⟩).carried

/-- A decimal written positionally. -/
def Decimal.text (d : Decimal) : String :=
  let digits := Nat.toDigits 10 d.digits
  if 0 ≤ d.exponent then
    String.ofList (digits ++ List.replicate d.exponent.toNat '0')
  else
    let places := (-d.exponent).toNat
    let padded := List.replicate (places + 1 - digits.length) '0' ++ digits
    let whole := padded.length - places
    String.ofList (padded.take whole ++ '.' :: padded.drop whole)

/-- The number with the fewest digits that read back to it. -/
def text (x : Binary64) : String :=
  let sign := if x.negative then "-" else ""
  if x.isInfinite then sign ++ "inf"
  else if x.magnitude = 0 then sign ++ "0"
  else sign ++ x.shortest.text

end AgentBus.Binary64
