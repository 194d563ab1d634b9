import RemovableMedia.Decimal.Shortest
import RemovableMedia.Toml.Quotation

/-!
# TOML numbers, truth values and times

A word is told to be one of these by its form alone.  Numbers keep their
exact value, of whatever size; of the others the written form is kept.
-/

namespace RemovableMedia.Toml

/-- A value that is a single word. -/
inductive Scalar where
  | boolean (value : Bool)
  | integer (value : Int)
  /-- A number with a fraction, an exponent or both. -/
  | float (negative : Bool) (magnitude : Decimal.Scaled)
  /-- An infinity, or the sign that there is no number. -/
  | nonfinite (written : String)
  | time (written : String)
  deriving DecidableEq, Repr

/-- The digits of a number, where one underscore may stand between two. -/
def groupedDigits? (isDigit : Char → Bool) : List Char → Option (List Char)
  | [] => none
  | [c] => if isDigit c then some [c] else none
  | c :: '_' :: rest =>
      if isDigit c then (groupedDigits? isDigit rest).map (c :: ·) else none
  | c :: rest =>
      if isDigit c then (groupedDigits? isDigit rest).map (c :: ·) else none

/-- A whole number without sign; no zero stands before another digit. -/
def decimal? (word : List Char) : Option Nat := do
  let digits ← groupedDigits? Char.isDigit word
  guard (digits.length = 1 ∨ digits.head? ≠ some '0')
  return Text.valueIn 10 digits

/-- Is there a minus sign, and what is left? -/
def unsign : List Char → Bool × List Char
  | '+' :: rest => (false, rest)
  | '-' :: rest => (true, rest)
  | word => (false, word)

/-- A whole number.  Only one in base ten may have a sign. -/
def integer? : List Char → Option Int
  | '0' :: 'x' :: rest => do
      let digits ← groupedDigits? (fun c => (Text.hexDigit? c).isSome) rest
      return Text.valueIn 16 digits
  | '0' :: 'o' :: rest => do
      let digits ← groupedDigits? (fun c => '0' ≤ c && c ≤ '7') rest
      return Text.valueIn 8 digits
  | '0' :: 'b' :: rest => do
      let digits ← groupedDigits? (fun c => c = '0' || c = '1') rest
      return Text.valueIn 2 digits
  | word => do
      let (negative, digits) := unsign word
      let value ← decimal? digits
      return if negative then -value else value

/-- The text before and after the first character that passes the test. -/
def splitAt? (test : Char → Bool) (word : List Char) :
    List Char × Option (List Char) :=
  match word.dropWhile fun c => !test c with
  | [] => (word, none)
  | _ :: rest => (word.takeWhile fun c => !test c, some rest)

/-- The digits of a fraction or an exponent; none when it is missing. -/
def optionalDigits? : Option (List Char) → Option (List Char)
  | none => some []
  | some word => groupedDigits? Char.isDigit word

/-- The power of ten that an exponent names. -/
def exponent? : Option (List Char) → Option Int
  | none => some 0
  | some word => do
      let (negative, word) := unsign word
      let value : Nat := Text.valueIn 10 (← groupedDigits? Char.isDigit word)
      return if negative then -value else value

/-- The magnitude of a number with a fraction, an exponent or both. -/
def magnitude? (word : List Char) : Option Decimal.Scaled := do
  let (mantissa, exponent) := splitAt? (fun c => c = 'e' || c = 'E') word
  let (whole, fraction) := splitAt? (· = '.') mantissa
  guard (fraction.isSome ∨ exponent.isSome)
  let whole ← decimal? whole
  let digits ← optionalDigits? fraction
  let scale ← exponent? exponent
  return ⟨whole * Decimal.tenTo digits.length + Text.valueIn 10 digits,
    scale - digits.length⟩

/-- A number with a fraction, an exponent or both. -/
def float? (word : List Char) : Option Scalar := do
  let (negative, unsigned) := unsign word
  return .float negative (← magnitude? unsigned)

/-- Is it an infinity, or no number at all? -/
def isNonfinite (word : List Char) : Bool :=
  let (_, unsigned) := unsign word
  unsigned = ['i', 'n', 'f'] || unsigned = ['n', 'a', 'n']

/-! ## Dates and times -/

/-- A number of exactly `count` digits. -/
def fixed? (count : Nat) (text : List Char) : Option (Nat × List Char) :=
  let digits := text.take count
  if digits.length = count ∧ digits.all Char.isDigit then
    some (Text.valueIn 10 digits, text.drop count)
  else
    none

/-- The text after the character, if it starts with it. -/
def expect (c : Char) : List Char → Option (List Char)
  | [] => none
  | first :: rest => if first = c then some rest else none

/-- Has February a day more in this year? -/
def isLeapYear (year : Nat) : Bool :=
  (year % 4 = 0 && year % 100 ≠ 0) || year % 400 = 0

def daysIn (year month : Nat) : Nat :=
  if month = 2 then if isLeapYear year then 29 else 28
  else if month ∈ [4, 6, 9, 11] then 30
  else 31

/-- What follows a date at the beginning. -/
def date? (text : List Char) : Option (List Char) := do
  let (year, rest) ← fixed? 4 text
  let (month, rest) ← fixed? 2 (← expect '-' rest)
  let (day, rest) ← fixed? 2 (← expect '-' rest)
  guard (1 ≤ month ∧ month ≤ 12 ∧ 1 ≤ day ∧ day ≤ daysIn year month)
  return rest

/-- The part of a second, if there is a point. -/
def secondPart? : List Char → Option (List Char)
  | '.' :: rest =>
      if (rest.takeWhile Char.isDigit).isEmpty then none
      else some (rest.dropWhile Char.isDigit)
  | rest => some rest

/-- A time of day; the seconds may be missing. -/
def timeOfDay? (text : List Char) : Option (List Char) := do
  let (hour, rest) ← fixed? 2 text
  let (minute, rest) ← fixed? 2 (← expect ':' rest)
  guard (hour ≤ 23 ∧ minute ≤ 59)
  match rest with
  | ':' :: rest => do
      let (second, rest) ← fixed? 2 rest
      guard (second ≤ 60)
      secondPart? rest
  | rest => return rest

/-- Is it the distance to universal time, or nothing? -/
def isOffset : List Char → Bool
  | [] => true
  | ['Z'] => true
  | ['z'] => true
  | sign :: rest =>
      (sign = '+' || sign = '-') && ((do
        let (hour, rest) ← fixed? 2 rest
        let (minute, rest) ← fixed? 2 (← expect ':' rest)
        guard (hour ≤ 23 ∧ minute ≤ 59 ∧ rest.isEmpty) : Option Unit)).isSome

def isDate (word : List Char) : Bool := date? word = some []

/-- Is it a date, a time of day, or one with the other? -/
def isTime (word : List Char) : Bool :=
  match date? word with
  | some [] => true
  | some (separator :: rest) =>
      (separator = 'T' || separator = 't' || separator = ' ') &&
        ((timeOfDay? rest).map isOffset).getD false
  | none => timeOfDay? word = some []

/-- What a word stands for. -/
def Scalar.ofWord? (word : List Char) : Option Scalar :=
  if word = "true".toList then some (.boolean true)
  else if word = "false".toList then some (.boolean false)
  else if isNonfinite word then some (.nonfinite (String.ofList word))
  else if isTime word then some (.time (String.ofList word))
  else (integer? word).map Scalar.integer <|> float? word

/-- May the character be part of a word? -/
def isWordChar (c : Char) : Bool :=
  c.isAlphanum || c = '_' || c = '+' || c = '-' || c = '.' || c = ':'

/-- The longest word of a text.  A blank may join a date and a time. -/
def word (text : List Char) : List Char × List Char :=
  let first := text.takeWhile isWordChar
  match text.dropWhile isWordChar with
  | ' ' :: rest =>
      let second := rest.takeWhile isWordChar
      if isDate first && (fixed? 2 second).isSome then
        (first ++ ' ' :: second, rest.dropWhile isWordChar)
      else
        (first, ' ' :: rest)
  | rest => (first, rest)

end RemovableMedia.Toml
