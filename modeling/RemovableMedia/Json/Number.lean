import RemovableMedia.Decimal.Shortest
import RemovableMedia.Text.Digits

/-!
# Numbers of JSON text

A number without fraction and exponent that fits a machine word is an
integer; every other number is a double.  The double is computed from a word
of leading digits and a power of ten, by one rounded multiplication or
division, which is not always the nearest double to the written number.
-/

namespace RemovableMedia.Json

/-- A number as it is taken in: a whole number of 64 bits, or else a double. -/
inductive Number where
  | integer (value : Int)
  | double (value : Float)
  /-- Too large for a double. -/
  | outOfRange

/-- A number as it is written. -/
structure Numeral where
  negative : Bool
  whole : List Char
  fraction : List Char
  /-- Sign and digits of the exponent. -/
  exponent : Option (Bool × List Char)

namespace Numeral

/-- Whole numbers below this fit a word. -/
def wordLimit : Nat := Decimal.twoTo 64

/-- Appends digits to a number while it still fits a word.  The second part
counts the digits that are left over. -/
def appendDigits : Nat → List Char → Nat × Nat
  | start, [] => (start, 0)
  | start, c :: rest =>
      let next := start * 10 + Text.digitValue c
      if next < wordLimit then appendDigits next rest
      else (start, rest.length + 1)

/-- The power as the nearest double. -/
def powerOfTen (n : Nat) : Float := Float.ofScientific 1 false n

/-- Powers of ten beyond this one are no doubles. -/
def greatestPower : Nat := 308

/-- Divides by a power of ten, in steps that are doubles. -/
def divideByPower (value : Float) (power : Nat) : Float :=
  if power ≤ greatestPower then value / powerOfTen power
  else if value == 0 then value
  else divideByPower (value / powerOfTen greatestPower) (power - greatestPower)
termination_by power
decreasing_by
  simp only [greatestPower] at *
  omega

/-- The significand times a power of ten, rounded as doubles are. -/
def scale (significand : Nat) (power : Int) : Number :=
  let value := significand.toUInt64.toFloat
  if power < 0 then
    .double (divideByPower value (-power).toNat)
  else if power.toNat ≤ greatestPower then
    let scaled := value * powerOfTen power.toNat
    if scaled.isInf then .outOfRange else .double scaled
  else if value == 0 then
    .double value
  else
    .outOfRange

/-- Exponents are kept in a signed word of 32 bits. -/
def exponentLimit : Nat := Decimal.twoTo 31

/-- The exponent is added to the power.  One that is too large decides by
itself. -/
def withExponent (significand : Nat) (power : Int) :
    Option (Bool × List Char) → Number
  | none => scale significand power
  | some (negative, digits) =>
      let exponent := Text.valueIn 10 digits
      if exponent < exponentLimit then
        scale significand (if negative then power - exponent else power + exponent)
      else if significand ≠ 0 ∧ !negative then
        .outOfRange
      else
        .double 0

def negate : Number → Number
  | .integer value => .integer (-value)
  | .double value => .double (-value)
  | .outOfRange => .outOfRange

/-- The number that a numeral stands for. -/
def value (numeral : Numeral) : Number :=
  let (significand, beyond) := appendDigits 0 numeral.whole
  let isWhole :=
    numeral.fraction.isEmpty && numeral.exponent.isNone && beyond = 0
  let sign := if numeral.negative then negate else id
  if isWhole then
    if !numeral.negative then
      .integer significand
    else if 0 < significand ∧ significand ≤ Decimal.twoTo 63 then
      .integer (-significand)
    else
      .double (-significand.toUInt64.toFloat)
  else
    let (significand, unread) := appendDigits significand numeral.fraction
    let power := (beyond : Int) - (numeral.fraction.length - unread : Nat)
    sign (withExponent significand power numeral.exponent)

end Numeral

/-- How a double is written: positionally from `leastPositional` up to below
`leastScientific`, both powers of ten, and otherwise with an exponent whose
sign is always there. -/
structure DoubleFormat where
  leastPositional : Int
  leastScientific : Int

/-- When a double is written with an exponent. -/
def doubleFormat : DoubleFormat := ⟨-5, 16⟩

/-- Writes `digits * 10 ^ scale`. -/
def DoubleFormat.write (format : DoubleFormat) (decimal : Decimal.Scaled) :
    List Char :=
  let digits := Nat.toDigits 10 decimal.digits
  let leading := decimal.scale + digits.length - 1
  if leading < format.leastPositional ∨ format.leastScientific ≤ leading then
    let fraction := if digits.length = 1 then [] else '.' :: digits.drop 1
    let sign := if leading < 0 then '-' else '+'
    digits.take 1 ++ fraction ++ 'e' :: sign :: Nat.toDigits 10 leading.natAbs
  else if 0 ≤ decimal.scale then
    digits ++ List.replicate decimal.scale.toNat '0' ++ ['.', '0']
  else if 0 ≤ leading then
    let whole := leading.toNat + 1
    digits.take whole ++ '.' :: digits.drop whole
  else
    ['0', '.'] ++ List.replicate (-leading - 1).toNat '0' ++ digits

/-- A double in the fewest digits that are read as it. -/
def doubleText (value : Float) : List Char :=
  let signBit := Decimal.twoTo 63
  let sign := if value.toBits.toNat < signBit then [] else ['-']
  let bits := UInt64.ofNat (value.toBits.toNat % signBit)
  if bits = 0 then
    sign ++ ['0', '.', '0']
  else
    sign ++ doubleFormat.write (Decimal.shortest (.ofBits bits))

/-- A whole number in base ten. -/
def integerText (value : Int) : List Char :=
  let digits := Nat.toDigits 10 value.natAbs
  if value < 0 then '-' :: digits else digits

end RemovableMedia.Json
