import RemovableMedia.Text.Unprintable

/-!
# Quoted text in messages

A message that names a text it could not use puts the text between double
quotes, so that any character of it can be told on a terminal: the usual
short escapes, and braces around the number of a character that prints as
nothing of its own.
-/

namespace RemovableMedia.Text

/-- The digits of a number in base sixteen, in lower case. -/
def hexadecimal (n : Nat) : List Char :=
  Nat.toDigits 16 n

/-- A character as it stands in quoted text. -/
def quotedChar (c : Char) : List Char :=
  match c with
  | '\u0000' => ['\\', '0']
  | '\t' => ['\\', 't']
  | '\r' => ['\\', 'r']
  | '\n' => ['\\', 'n']
  | '"' => ['\\', '"']
  | '\\' => ['\\', '\\']
  | c =>
      if isUnprintable c then
        ['\\', 'u', '\u007b'] ++ hexadecimal c.toNat ++ ['\u007d']
      else
        [c]

def quoted (text : String) : String :=
  String.ofList ('"' :: text.toList.flatMap quotedChar ++ ['"'])

/-- A text that may be absent. -/
def quotedOption : Option String → String
  | some text => "Some(" ++ quoted text ++ ")"
  | none => "None"

end RemovableMedia.Text
