import RemovableMedia.Text.Digits
import RemovableMedia.Toml.Layout

/-!
# TOML strings

Basic strings have escapes, literal strings have none.  A long string, of
either sort, is enclosed in three quotation marks and may span lines; up to
two marks before the closing three belong to it.
-/

namespace RemovableMedia.Toml

/-- The character with the code that the digits spell. -/
def charOfHex? (digits : List Char) : Option Char := do
  let code ← Text.hexValue? digits
  if Nat.isValidChar code then some (Char.ofNat code) else none

/-- The character that an escape of one letter stands for. -/
def escaped? : Char → Option Char
  | 'b' => some '\u0008'
  | 't' => some '\t'
  | 'n' => some '\n'
  | 'f' => some '\u000c'
  | 'r' => some '\r'
  | 'e' => some '\u001b'
  | '"' => some '"'
  | '\\' => some '\\'
  | _ => none

/-- A text that was read, and what follows it. -/
abbrev Reading := Option (List Char × List Char)

/-- The same with a character in front. -/
def Reading.cons (c : Char) (reading : Reading) : Reading :=
  reading.map fun (text, rest) => (c :: text, rest)

/-- May the first character of `text` stand in a string? -/
def isStringChar (long : Bool) (c : Char) (rest : List Char) : Bool :=
  isPlain c || (long && startsLine (c :: rest))

/-- A basic string after its opening marks.  While `trimming`, after a
backslash at the end of a line, blanks and line ends are left out. -/
def basicString (long trimming : Bool) : List Char → Reading
  | [] => none
  | '"' :: rest =>
      if long then
        match rest with
        | '"' :: '"' :: '"' :: '"' :: after => some (['"', '"'], after)
        | '"' :: '"' :: '"' :: after => some (['"'], after)
        | '"' :: '"' :: after => some ([], after)
        | _ => (basicString long false rest).cons '"'
      else
        some ([], rest)
  | '\\' :: 'x' :: a :: b :: rest => do
      (basicString long false rest).cons (← charOfHex? [a, b])
  | '\\' :: 'u' :: a :: b :: c :: d :: rest => do
      (basicString long false rest).cons (← charOfHex? [a, b, c, d])
  | '\\' :: 'U' :: a :: b :: c :: d :: e :: f :: g :: h :: rest => do
      (basicString long false rest).cons
        (← charOfHex? [a, b, c, d, e, f, g, h])
  | '\\' :: c :: rest =>
      match escaped? c with
      | some meant => (basicString long false rest).cons meant
      | none =>
          if long && startsLine (skipBlanks (c :: rest)) then
            basicString long true (c :: rest)
          else
            none
  | c :: rest =>
      if isStringChar long c rest && c ≠ '\\' then
        if trimming && (isBlank c || startsLine (c :: rest)) then
          basicString long true rest
        else
          (basicString long false rest).cons c
      else
        none

/-- The rest of a text in which nothing is an escape. -/
def literalString (long : Bool) : List Char → Reading
  | [] => none
  | '\'' :: rest =>
      if long then
        match rest with
        | '\'' :: '\'' :: '\'' :: '\'' :: after => some (['\'', '\''], after)
        | '\'' :: '\'' :: '\'' :: after => some (['\''], after)
        | '\'' :: '\'' :: after => some ([], after)
        | _ => (literalString long rest).cons '\''
      else
        some ([], rest)
  | c :: rest =>
      if isStringChar long c rest then (literalString long rest).cons c
      else none

/-- A line end right after the opening marks does not count. -/
def skipFirstLineEnd : List Char → List Char
  | '\n' :: rest => rest
  | '\r' :: '\n' :: rest => rest
  | text => text

/-- Any string, from its opening marks. -/
def string? : List Char → Reading
  | '"' :: '"' :: '"' :: rest => basicString true false (skipFirstLineEnd rest)
  | '"' :: rest => basicString false false rest
  | '\'' :: '\'' :: '\'' :: rest => literalString true (skipFirstLineEnd rest)
  | '\'' :: rest => literalString false rest
  | _ => none

end RemovableMedia.Toml
