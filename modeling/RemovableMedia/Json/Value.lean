import RemovableMedia.Json.Number
import RemovableMedia.Text.Quoted

/-!
# JSON values as they are read

A reader of events meets every kind of text, so a value here may stop short:
`broken` stands where the text does not go on as JSON.  A decoder that walks
the tree in reading order meets a break exactly where it would have met it in
the text, after everything that comes before.

A string is absent when one of its escapes names half of a surrogate pair.
A member of an object is a pair of values; the text breaks at a member whose
key is no string.
-/

namespace RemovableMedia.Json

/-- A value that was read, broken where the text does not go on as JSON. -/
inductive Value where
  | null
  | boolean (value : Bool)
  | number (value : Number)
  | string (value : Option String)
  | array (items : List Value)
  | object (members : List (Value × Value))
  | broken

instance : Inhabited Value := ⟨.null⟩

mutual

/-- Is the text of the value JSON to its end?  Half pairs and numbers too
large for a double are overlooked. -/
def Value.isWhole : Value → Bool
  | .array items => itemsWhole items
  | .object members => membersWhole members
  | .broken => false
  | _ => true

/-- Are all items whole? -/
def itemsWhole : List Value → Bool
  | [] => true
  | item :: rest => item.isWhole && itemsWhole rest

/-- Do all members have a string for a key and a whole value? -/
def membersWhole : List (Value × Value) → Bool
  | [] => true
  | (.string _, value) :: rest => value.isWhole && membersWhole rest
  | _ :: _ => false

end

mutual

/-- Can the whole value be taken in, with at most `levels` containers around
one another? -/
def Value.isReadable (levels : Nat) : Value → Bool
  | .number .outOfRange => false
  | .string none => false
  | .array items => levels ≠ 0 && itemsReadable (levels - 1) items
  | .object members => levels ≠ 0 && membersReadable (levels - 1) members
  | .broken => false
  | _ => true

/-- Can all items be taken in? -/
def itemsReadable (levels : Nat) : List Value → Bool
  | [] => true
  | item :: rest => item.isReadable levels && itemsReadable levels rest

/-- Can all members be taken in? -/
def membersReadable (levels : Nat) : List (Value × Value) → Bool
  | [] => true
  | (.string (some _), value) :: rest =>
      value.isReadable levels && membersReadable levels rest
  | _ :: _ => false

end

/-- What a message calls the value.  Nothing is said of a value whose own
text cannot be read. -/
def Value.description? : Value → Option String
  | .null => some "null"
  | .boolean true => some "boolean `true`"
  | .boolean false => some "boolean `false`"
  | .number (.integer value) =>
      some ("integer `" ++ String.ofList (integerText value) ++ "`")
  | .number (.double value) =>
      some ("floating point `" ++ String.ofList (doubleText value) ++ "`")
  | .number .outOfRange => none
  | .string (some text) => some ("string " ++ Text.quoted text)
  | .string none => none
  | .array _ => some "sequence"
  | .object _ => some "map"
  | .broken => none

/-- A string value. -/
def Value.text (text : String) : Value := .string (some text)

/-- A member of an object, from its key. -/
def member (key : String) (value : Value) : Value × Value :=
  (.text key, value)

/-- A text, or null for none. -/
def Value.optionalText : Option String → Value
  | some text => .text text
  | none => .null

end RemovableMedia.Json
