import RemovableMedia.Json.Value

/-!
# Writing JSON

Values are written without blanks, members in their order.  A string escapes
the quotation mark, the backslash and the control characters below the
space, and nothing else.
-/

namespace RemovableMedia.Json

/-- A character as it stands in a string. -/
def escapedChar (c : Char) : List Char :=
  match c with
  | '"' => ['\\', '"']
  | '\\' => ['\\', '\\']
  | '\u0008' => ['\\', 'b']
  | '\u000c' => ['\\', 'f']
  | '\n' => ['\\', 'n']
  | '\r' => ['\\', 'r']
  | '\t' => ['\\', 't']
  | c =>
      if c.toNat < 0x20 then
        ['\\', 'u', '0', '0', Nat.digitChar (c.toNat / 16),
          Nat.digitChar (c.toNat % 16)]
      else
        [c]

def stringText (text : String) : List Char :=
  '"' :: text.toList.flatMap escapedChar ++ ['"']

/-- A number, in the fewest digits that are read as it. -/
def numberText : Number → List Char
  | .integer value => integerText value
  | .double value => doubleText value
  | .outOfRange => []

mutual

/-- A value without blanks. -/
def Value.write : Value → List Char
  | .null => "null".toList
  | .boolean true => "true".toList
  | .boolean false => "false".toList
  | .number value => numberText value
  | .string (some text) => stringText text
  | .string none => []
  | .array items => '[' :: writeItems items ++ [']']
  | .object members => '\u007b' :: writeMembers members ++ ['\u007d']
  | .broken => []

/-- The items of an array, with commas between them. -/
def writeItems : List Value → List Char
  | [] => []
  | [item] => item.write
  | item :: rest => item.write ++ ',' :: writeItems rest

/-- The members of an object, with commas between them. -/
def writeMembers : List (Value × Value) → List Char
  | [] => []
  | [(key, value)] => key.write ++ ':' :: value.write
  | (key, value) :: rest =>
      key.write ++ ':' :: value.write ++ ',' :: writeMembers rest

end

def Value.toText (value : Value) : String := String.ofList value.write

end RemovableMedia.Json
