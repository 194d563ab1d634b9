import RemovableMedia.Json.Value
import RemovableMedia.Text.Digits

/-!
# Tokens of JSON text

`scan` cuts a text into tokens.  It stops at the first characters that start
no token, with `junk` in their place.
-/

namespace RemovableMedia.Json

/-- What a text is made of, blanks apart. -/
inductive Token where
  | arrayStart
  | arrayEnd
  | objectStart
  | objectEnd
  | colon
  | comma
  /-- A value that is no container. -/
  | scalar (value : Value)
  | junk

/-- A unit of string text: a character, or half of a surrogate pair. -/
inductive StringUnit where
  | char (c : Char)
  | half (code : Nat)

/-- The character that an escape of one letter stands for. -/
def simpleEscape? : Char → Option Char
  | '"' => some '"'
  | '\\' => some '\\'
  | '/' => some '/'
  | 'b' => some '\u0008'
  | 'f' => some '\u000c'
  | 'n' => some '\n'
  | 'r' => some '\r'
  | 't' => some '\t'
  | _ => none

/-- Is the code half of a pair that stands for one character? -/
def isHalf (code : Nat) : Bool := 0xd800 ≤ code && code ≤ 0xdfff

/-- The unit with the code. -/
def StringUnit.ofCode (code : Nat) : StringUnit :=
  if isHalf code then .half code else .char (Char.ofNat code)

/-- The units of a string up to its closing quotation mark, and the text
after it. -/
def stringUnits? : List Char → Option (List StringUnit × List Char)
  | [] => none
  | '"' :: rest => some ([], rest)
  | '\\' :: 'u' :: a :: b :: c :: d :: rest => do
      let code ← Text.hexValue? [a, b, c, d]
      let (units, after) ← stringUnits? rest
      return (.ofCode code :: units, after)
  | '\\' :: c :: rest => do
      let escaped ← simpleEscape? c
      let (units, after) ← stringUnits? rest
      return (.char escaped :: units, after)
  | c :: rest =>
      if c.toNat < 0x20 ∨ c = '\\' then
        none
      else do
        let (units, after) ← stringUnits? rest
        return (.char c :: units, after)

/-- Joins surrogate pairs; a half without its other half has no text. -/
def joinUnits? : List StringUnit → Option (List Char)
  | [] => some []
  | .char c :: rest => (joinUnits? rest).map (c :: ·)
  | .half high :: .half low :: rest =>
      if high < 0xdc00 ∧ 0xdc00 ≤ low then
        let code := 0x10000 + (high - 0xd800) * 0x400 + (low - 0xdc00)
        (joinUnits? rest).map (Char.ofNat code :: ·)
      else
        none
  | .half _ :: _ => none

/-- The string of the units, if each half has its other. -/
def Value.ofUnits (units : List StringUnit) : Value :=
  .string ((joinUnits? units).map String.ofList)

/-- The digits at the beginning, and what is left. -/
def digitsOf (text : List Char) : List Char × List Char :=
  (text.takeWhile Char.isDigit, text.dropWhile Char.isDigit)

/-- The whole part of a number: no zero stands before another digit. -/
def wholePart? (text : List Char) : Option (List Char × List Char) :=
  match digitsOf text with
  | ([], _) => none
  | ('0' :: _ :: _, _) => none
  | parts => some parts

/-- The digits after the point, if there is a point. -/
def fractionPart? : List Char → Option (List Char × List Char)
  | '.' :: rest =>
      match digitsOf rest with
      | ([], _) => none
      | parts => some parts
  | text => some ([], text)

/-- Is there a minus sign, and what is left? -/
def exponentSign : List Char → Bool × List Char
  | '+' :: rest => (false, rest)
  | '-' :: rest => (true, rest)
  | text => (false, text)

/-- The exponent after its letter. -/
def exponentDigits? (text : List Char) :
    Option (Option (Bool × List Char) × List Char) :=
  let (negative, rest) := exponentSign text
  match digitsOf rest with
  | ([], _) => none
  | (digits, after) => some (some (negative, digits), after)

/-- The exponent, if there is one. -/
def exponentPart? : List Char →
    Option (Option (Bool × List Char) × List Char)
  | 'e' :: rest => exponentDigits? rest
  | 'E' :: rest => exponentDigits? rest
  | text => some (none, text)

/-- The number that follows an optional minus sign. -/
def numeral? (negative : Bool) (text : List Char) :
    Option (Numeral × List Char) := do
  let (whole, rest) ← wholePart? text
  let (fraction, rest) ← fractionPart? rest
  let (exponent, rest) ← exponentPart? rest
  return (⟨negative, whole, fraction, exponent⟩, rest)

/-- The token that starts with `c`, and the text after it. -/
def Token.lex (c : Char) (text : List Char) : Token × List Char :=
  match c, text with
  | '[', _ => (arrayStart, text)
  | ']', _ => (arrayEnd, text)
  | '\u007b', _ => (objectStart, text)
  | '\u007d', _ => (objectEnd, text)
  | ':', _ => (colon, text)
  | ',', _ => (comma, text)
  | 'n', 'u' :: 'l' :: 'l' :: rest => (scalar .null, rest)
  | 't', 'r' :: 'u' :: 'e' :: rest => (scalar (.boolean true), rest)
  | 'f', 'a' :: 'l' :: 's' :: 'e' :: rest => (scalar (.boolean false), rest)
  | '"', _ =>
      match stringUnits? text with
      | some (units, rest) => (scalar (.ofUnits units), rest)
      | none => (junk, [])
  | '-', _ =>
      match numeral? true text with
      | some (numeral, rest) => (scalar (.number numeral.value), rest)
      | none => (junk, [])
  | c, _ =>
      match numeral? false (c :: text) with
      | some (numeral, rest) => (scalar (.number numeral.value), rest)
      | none => (junk, [])

/-- Reading a string takes the text on. -/
theorem length_of_stringUnits? {text rest : List Char}
    {units : List StringUnit} (read : stringUnits? text = some (units, rest)) :
    rest.length < text.length := by
  fun_induction stringUnits? text generalizing units rest with
  | case1 => simp at read
  | case2 after =>
      simp only [Option.some.injEq, Prod.mk.injEq] at read
      simp [read.2]
  | case3 a b c d after induction =>
      simp only [Option.bind_eq_bind, Option.bind_eq_some_iff,
        Option.pure_def, Option.some.injEq, Prod.mk.injEq] at read
      obtain ⟨code, _, ⟨units', rest'⟩, inner, _, rfl⟩ := read
      have := induction inner
      simp only [List.length_cons]
      omega
  | case4 c after _ induction =>
      simp only [Option.bind_eq_bind, Option.bind_eq_some_iff,
        Option.pure_def, Option.some.injEq, Prod.mk.injEq] at read
      obtain ⟨escaped, _, ⟨units', rest'⟩, inner, _, rfl⟩ := read
      have := induction inner
      simp only [List.length_cons]
      omega
  | case5 => simp at read
  | case6 c after _ _ _ _ induction =>
      simp only [Option.bind_eq_bind, Option.bind_eq_some_iff,
        Option.pure_def, Option.some.injEq, Prod.mk.injEq] at read
      obtain ⟨⟨units', rest'⟩, inner, _, rfl⟩ := read
      have := induction inner
      simp only [List.length_cons]
      omega

private theorem length_digitsOf (text : List Char) :
    (digitsOf text).1.length + (digitsOf text).2.length = text.length := by
  rw [digitsOf, ← List.length_append, List.takeWhile_append_dropWhile]

private theorem length_of_wholePart? {text whole rest : List Char}
    (read : wholePart? text = some (whole, rest)) :
    rest.length < text.length := by
  have total := length_digitsOf text
  unfold wholePart? at read
  split at read
  · simp at read
  · simp at read
  · next parts nonempty _ =>
      simp only [Option.some.injEq] at read
      cases whole with
      | nil => exact absurd read (by simpa using nonempty rest)
      | cons c whole =>
          simp only [read, List.length_cons] at total
          omega

private theorem length_of_fractionPart? {text fraction rest : List Char}
    (read : fractionPart? text = some (fraction, rest)) :
    rest.length ≤ text.length := by
  unfold fractionPart? at read
  split at read
  · next after =>
      have total := length_digitsOf after
      split at read
      · simp at read
      · simp only [Option.some.injEq] at read
        simp only [read] at total
        simp only [List.length_cons]
        omega
  · simp only [Option.some.injEq, Prod.mk.injEq] at read
    simp [read.2]

private theorem length_of_exponentDigits? {text rest : List Char}
    {exponent : Option (Bool × List Char)}
    (read : exponentDigits? text = some (exponent, rest)) :
    rest.length ≤ text.length := by
  have signed : (exponentSign text).2.length ≤ text.length := by
    unfold exponentSign
    split <;> simp
  have total := length_digitsOf (exponentSign text).2
  unfold exponentDigits? at read
  simp only at read
  split at read
  · simp at read
  · next digits after _ parts =>
      simp only [Option.some.injEq, Prod.mk.injEq] at read
      simp only [parts] at total
      rw [← read.2]
      omega

private theorem length_of_exponentPart? {text rest : List Char}
    {exponent : Option (Bool × List Char)}
    (read : exponentPart? text = some (exponent, rest)) :
    rest.length ≤ text.length := by
  unfold exponentPart? at read
  split at read
  · have := length_of_exponentDigits? read
    simp only [List.length_cons]
    omega
  · have := length_of_exponentDigits? read
    simp only [List.length_cons]
    omega
  · simp only [Option.some.injEq, Prod.mk.injEq] at read
    simp [read.2]

theorem length_of_numeral? {negative : Bool} {text rest : List Char}
    {numeral : Numeral}
    (read : numeral? negative text = some (numeral, rest)) :
    rest.length < text.length := by
  simp only [numeral?, Option.bind_eq_bind, Option.bind_eq_some_iff,
    Option.pure_def, Option.some.injEq, Prod.mk.injEq, Prod.exists] at read
  obtain ⟨whole, afterWhole, readWhole, fraction, afterFraction, readFraction,
    exponent, afterExponent, readExponent, _, rfl⟩ := read
  have := length_of_wholePart? readWhole
  have := length_of_fractionPart? readFraction
  have := length_of_exponentPart? readExponent
  omega

theorem Token.length_lex (c : Char) (text : List Char) :
    (Token.lex c text).2.length ≤ text.length := by
  unfold Token.lex
  split
  case h_10 =>
    split
    · next units rest read => exact Nat.le_of_lt (length_of_stringUnits? read)
    · simp
  case h_11 =>
    split
    · next numeral rest read => exact Nat.le_of_lt (length_of_numeral? read)
    · simp
  case h_12 =>
    split
    · next numeral rest read =>
        exact Nat.le_of_lt_succ (length_of_numeral? read)
    · simp
  all_goals
    simp only [List.length_cons]
    try omega

/-- Is it one of the four blanks of JSON? -/
def isSpace (c : Char) : Bool :=
  c = ' ' || c = '\n' || c = '\t' || c = '\r'

/-- All tokens of a text. -/
def scan : List Char → List Token
  | [] => []
  | c :: text =>
      if isSpace c then
        scan text
      else
        (Token.lex c text).1 :: scan (Token.lex c text).2
termination_by text => text.length
decreasing_by
  · simp
  · have shorter := Token.length_lex c text
    simp only [List.length_cons]
    omega

end RemovableMedia.Json
