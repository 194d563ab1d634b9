import RemovableMedia.Decimal.Range
import RemovableMedia.Toml.Table

/-!
# The range of TOML numbers

A document may hold numbers of any size, but a value is taken in only when
its whole numbers fit 128 bits, with a sign or without one, and its other
numbers round to finite doubles.
-/

namespace RemovableMedia.Toml

/-- The least whole number. -/
def leastInteger : Int := -(Decimal.twoTo 127)

/-- The whole numbers lie below this one. -/
def integerBound : Int := Decimal.twoTo 128

/-- Does a number fit what settings are read into? -/
def Scalar.isInRange : Scalar → Bool
  | .integer value => leastInteger ≤ value && value < integerBound
  | .float _ magnitude => magnitude.isFinite
  | _ => true

mutual

/-- Are all numbers within the value in range? -/
def Value.isInRange : Value → Bool
  | .string _ => true
  | .scalar value => value.isInRange
  | .array items => itemsInRange items
  | .table entries => entriesInRange entries

/-- Do all numbers of the items fit? -/
def itemsInRange : List Value → Bool
  | [] => true
  | item :: rest => item.isInRange && itemsInRange rest

/-- Do all numbers of the entries fit? -/
def entriesInRange : List (String × Value) → Bool
  | [] => true
  | (_, value) :: rest => value.isInRange && entriesInRange rest

end

end RemovableMedia.Toml
