import RemovableMedia.Decimal.Shortest

/-!
# The range of the doubles

A decimal rounds to a finite double when it lies below the middle between the
largest double and the power of two after it.  The middle has 309 digits, so
that the number of its digits alone decides on most decimals.
-/

namespace RemovableMedia.Decimal

/-- The least number that is too large for a double. -/
def finiteBound : Nat := twoTo 1024 - twoTo 970

/-- The number of digits of the greatest number. -/
def boundDigits : Nat := 309

example : digitCount finiteBound = boundDigits := by decide +kernel

namespace Scaled

/-- The number of digits before the point, when the first is not a zero. -/
def wholeDigits (decimal : Scaled) : Int :=
  digitCount decimal.digits + decimal.scale

/-- Does the number lie in the range of a double? -/
def isFinite (decimal : Scaled) : Bool :=
  if decimal.digits = 0 then true
  else if decimal.wholeDigits < boundDigits then true
  else if boundDigits < decimal.wholeDigits then false
  else
    decimal.digits * tenTo decimal.scale.toNat <
      finiteBound * tenTo (-decimal.scale).toNat

example : (Scaled.mk 17976931348623158 292).isFinite = true := by
  decide +kernel

example : (Scaled.mk 17976931348623159 292).isFinite = false := by
  decide +kernel

end Scaled

end RemovableMedia.Decimal
