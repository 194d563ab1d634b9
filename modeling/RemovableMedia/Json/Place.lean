import RemovableMedia.Json.Number

/-!
# Places in messages

The message of a fault ends with the place of the fault in the text, as in
` at line 3 column 14`, when the place is known.  Whoever shows a message
leaves the place away, and takes for it the last ` at line ` and all after
it.  A message without a place loses its own words that read like one.
-/

namespace RemovableMedia.Json.Place

/-- What a place starts with. -/
def lineMark : List Char := " at line ".toList

/-- What stands between line and column. -/
def columnMark : List Char := " column ".toList

/-- Looks for a mark from the end of a text.  Mark and text are in reverse;
`after` was passed on the way. -/
def searchBack? (mark after : List Char) :
    List Char → Option (List Char × List Char)
  | [] => none
  | c :: rest =>
      match mark.isPrefixOf? (c :: rest) with
      | some before => some (before.reverse, after)
      | none => searchBack? mark (c :: after) rest

/-- What stands before and after the last mark of a line. -/
def split? (message : List Char) : Option (List Char × List Char) :=
  searchBack? lineMark.reverse [] message.reverse

example : split? "a at line 1 at line 2".toList =
    some ("a at line 1".toList, ['2']) := by
  decide +kernel

/-- The numbers of lines and columns fit a machine word. -/
def isNumber (digits : List Char) : Bool :=
  !digits.isEmpty && digits.all Char.isDigit &&
    Text.valueIn 10 digits < Numeral.wordLimit

/-- The message before the place that it ends with, and the line there. -/
def stated? (message : List Char) : Option (List Char × Nat) :=
  match split? message with
  | none => none
  | some (before, after) =>
      let line := after.takeWhile Char.isDigit
      match columnMark.isPrefixOf? (after.dropWhile Char.isDigit) with
      | none => none
      | some column =>
          if isNumber line && isNumber column then
            some (before, Text.valueIn 10 line)
          else
            none

/-- A message without what reads like a place. -/
def remove (message : List Char) : List Char :=
  match split? message with
  | some (before, _) => before
  | none => message

/-- What is shown of a message to which no place was added.  If its own words
end with a place, that is taken for the place of the fault; but there is no
line zero, and such a place is dropped before the message is shown. -/
def shown (message : String) : String :=
  let message := message.toList
  match stated? message with
  | some (before, 0) => String.ofList (remove before)
  | _ => String.ofList (remove message)

end RemovableMedia.Json.Place
