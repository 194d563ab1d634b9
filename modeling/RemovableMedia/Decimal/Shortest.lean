/-!
# The shortest decimal that reads back

A positive double is `significand * 2 ^ exponent`, and every real nearer to
it than to its neighbours reads back as it.  `shortest` finds, for the
smallest number of digits that allows it, the point of the decimal grid
nearest to the double within that interval.  All arithmetic is on naturals.
-/

namespace RemovableMedia.Decimal

def twoTo (exponent : Nat) : Nat := Nat.pow 2 exponent

def tenTo (exponent : Nat) : Nat := Nat.pow 10 exponent

/-- The number `digits * 10 ^ scale`. -/
structure Scaled where
  digits : Nat
  scale : Int
  deriving DecidableEq, Repr

/-- A finite positive double, as `significand * 2 ^ exponent`. -/
structure Binary where
  significand : Nat
  exponent : Int
  /-- The next smaller double lies at half the distance of the next larger. -/
  narrowBelow : Bool
  deriving DecidableEq, Repr

/-- The magnitude of a finite double other than zero. -/
def Binary.ofBits (bits : UInt64) : Binary :=
  let fraction := bits.toNat % twoTo 52
  let biased := bits.toNat / twoTo 52 % twoTo 11
  if biased = 0 then
    ⟨fraction, -1074, false⟩
  else
    ⟨twoTo 52 + fraction, (biased : Int) - 1075, fraction = 0 && biased ≠ 1⟩

/-- The reals that round to a double, in multiples of a common unit
`1 / unitsPerOne`: the double itself and the ends of its interval. -/
structure Interval where
  low : Nat
  value : Nat
  high : Nat
  unitsPerOne : Nat
  endsIncluded : Bool

/-- The numbers that are read as this one, between the midpoints to its
neighbours. -/
def Binary.interval (binary : Binary) : Interval :=
  let scaleUp := twoTo (binary.exponent - 2).toNat
  let unitsPerOne := twoTo (2 - binary.exponent).toNat
  let quarter := 4 * binary.significand
  { low := (if binary.narrowBelow then quarter - 1 else quarter - 2) * scaleUp
    value := quarter * scaleUp
    high := (quarter + 2) * scaleUp
    unitsPerOne := unitsPerOne
    endsIncluded := binary.significand % 2 = 0 }

/-- Does `point * 10 ^ scale` round to the double? -/
def Interval.holds (interval : Interval) (point : Nat) (scale : Int) : Bool :=
  let scaled := point * tenTo scale.toNat * interval.unitsPerOne
  let factor := tenTo (-scale).toNat
  if interval.endsIncluded then
    interval.low * factor ≤ scaled && scaled ≤ interval.high * factor
  else
    interval.low * factor < scaled && scaled < interval.high * factor

/-- The number of digits in base ten. -/
def digitCount (n : Nat) : Nat :=
  (Nat.toDigits 10 n).length

/-- The greatest `k` with `10 ^ k` not above `numerator / denominator`. -/
def magnitude (numerator denominator : Nat) : Int :=
  if denominator ≤ numerator then
    (digitCount (numerator / denominator) : Int) - 1
  else
    -(digitCount ((denominator - 1) / numerator) : Int)

/-- The best point with this scale, if one of the two neighbours of the
double on the grid rounds to it; of two equally near ones the even one. -/
def Interval.nearest? (interval : Interval) (scale : Int) : Option Nat :=
  let numerator := interval.value * tenTo (-scale).toNat
  let step := tenTo scale.toNat * interval.unitsPerOne
  let below := numerator / step
  let rest := numerator % step
  let preferred :=
    if 2 * rest < step || (2 * rest = step && below % 2 = 0) then
      [below, below + 1]
    else
      [below + 1, below]
  preferred.find? fun point => interval.holds point scale

/-- Moves trailing zeros of the digits into the scale. -/
def Scaled.normalized : Nat → Scaled → Scaled
  | 0, scaled => scaled
  | rounds + 1, scaled =>
      if scaled.digits ≠ 0 ∧ scaled.digits % 10 = 0 then
        Scaled.normalized rounds ⟨scaled.digits / 10, scaled.scale + 1⟩
      else
        scaled

/-- Seventeen digits always suffice. -/
def mostDigits : Nat := 17

/-- The shortest decimal number that is read as this one, and the nearest to it
among those. -/
def shortest (binary : Binary) : Scaled :=
  let interval := binary.interval
  let leading := magnitude interval.value interval.unitsPerOne
  let candidates := (List.range mostDigits).filterMap fun (count : Nat) =>
    let scale := leading - count
    (interval.nearest? scale).map fun point => Scaled.mk point scale
  (candidates.head?.getD ⟨0, 0⟩).normalized mostDigits

example : shortest (.ofBits 0x3fb999999999999a) = ⟨1, -1⟩ := by
  decide +kernel

example : shortest (.ofBits 1) = ⟨5, -324⟩ := by decide +kernel

end RemovableMedia.Decimal
