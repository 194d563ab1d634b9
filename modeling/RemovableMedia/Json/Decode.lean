import RemovableMedia.Json.Place
import RemovableMedia.Json.Reader

/-!
# Decoding JSON

Decoders turn a value that was read into a value of a type.  The first fault
in reading order decides the error, with two exceptions: fields that are
missing are found at the end of their record, and a value that is taken in
whole before it is decoded shows every fault of its text first.

A record is an object with named members, or an array of its fields in their
order.  Members with other names are passed over.
-/

namespace RemovableMedia.Json

/-- Why a value could not be decoded. -/
inductive DecodeError where
  /-- The text is not acceptable JSON. -/
  | malformed
  | missingField (name : String)
  | duplicateField (name : String)
  | unknownVariant (found : String) (expected : List String)
  | invalidType (found expected : String)
  | invalidValue (found expected : String)
  | invalidLength (length : Nat) (expected : String)
  /-- A text that is not of the form that its type asks for. -/
  | refusedText (reason : String)
  /-- An error in a value that was taken in before it was decoded. -/
  | detached (error : DecodeError)
  deriving DecidableEq, Repr

namespace DecodeError

def ticked (name : String) : String := "`" ++ name ++ "`"

/-- What is expected instead of a name that is not known. -/
def alternatives : List String → String
  | [] => "there are no variants"
  | [only] => "expected " ++ ticked only
  | [first, second] => "expected " ++ ticked first ++ " or " ++ ticked second
  | names => "expected one of " ++ ", ".intercalate (names.map ticked)

/-- The words of an error, without a place in the text. -/
def message : DecodeError → String
  | malformed => "malformed text"
  | missingField name => "missing field " ++ ticked name
  | duplicateField name => "duplicate field " ++ ticked name
  | unknownVariant found expected =>
      "unknown variant " ++ ticked found ++ ", " ++ alternatives expected
  | invalidType found expected =>
      "invalid type: " ++ found ++ ", expected " ++ expected
  | invalidValue found expected =>
      "invalid value: " ++ found ++ ", expected " ++ expected
  | invalidLength length expected =>
      "invalid length " ++ Nat.repr length ++ ", expected " ++ expected
  | refusedText reason => reason
  | detached error => error.message

/-- Is it known where in the text the error is?  Not once the reader has gone
on from there. -/
def hasPlace : DecodeError → Bool
  | refusedText _ => false
  | detached _ => false
  | _ => true

/-- What is told of an error. -/
def report (error : DecodeError) : String :=
  if error.hasPlace then error.message else Place.shown error.message

end DecodeError

/-- Turns a value into one of a type, or says why it cannot. -/
abbrev Decoder (α : Type) := Value → Except DecodeError α

/-- The error for a value of another type than the expected one. -/
def wrongType (expected : String) (value : Value) : DecodeError :=
  match value.description? with
  | some found => .invalidType found expected
  | none => .malformed

namespace Decoder

/-- A text, where `expected` says what the text is. -/
def textAs (expected : String) : Decoder String
  | .string (some text) => .ok text
  | value => .error (wrongType expected value)

def text : Decoder String := textAs "a string"

def boolean : Decoder Bool
  | .boolean value => .ok value
  | value => .error (wrongType "a boolean" value)

/-- Null or a value. -/
def optional {α : Type} (decoder : Decoder α) : Decoder (Option α)
  | .null => .ok none
  | value => (decoder value).map some

/-- A text that is coded: `ofText` gives its meaning, or why it has none. -/
def coded {α : Type} (ofText : String → Except String α) : Decoder α :=
  fun value => do
    let found ← text value
    (ofText found).mapError .refusedText

end Decoder

/-- How a value comes to its decoder: straight from the text, after the whole
of it was taken in, or from no text at all. -/
inductive Source where
  | direct
  | takenIn
  | given
  deriving DecidableEq, Repr

/-- What stands for one of several names. -/
structure Choice (α : Type) where
  options : List (String × α)

namespace Choice

variable {α : Type}

def ofName (choice : Choice α) (name : String) : Except DecodeError α :=
  match choice.options.find? fun option => option.1 = name with
  | some option => .ok option.2
  | none => .error (.unknownVariant name (choice.options.map Prod.fst))

/-- The option that a value names. -/
def identifier (choice : Choice α) : Decoder α := fun value => do
  choice.ofName (← Decoder.textAs "variant identifier" value)

/-- The value that a name may carry: none to speak of. -/
def noPayload (source : Source) : Decoder Unit
  | .null => .ok ()
  | .object [] =>
      if source = .takenIn then .ok ()
      else .error (wrongType "unit" (.object []))
  | value => .error (wrongType "unit" value)

/-- A name, or an object whose only member is the name with nothing. -/
def decode (choice : Choice α) : Source → Decoder α
  | _, .string (some name) => choice.ofName name
  | .direct, .object ((key, payload) :: others) => do
      let chosen ← choice.identifier key
      noPayload .direct payload
      if others.isEmpty then .ok chosen else .error .malformed
  | .direct, _ => .error .malformed
  | source, .object [(key, payload)] => do
      let chosen ← choice.identifier key
      noPayload source payload
      .ok chosen
  | _, .object _ => .error (.invalidValue "map" "map with a single key")
  | _, value => .error (wrongType "string or map" value)

end Choice

/-- A field of a record.  A field with a default may be missing. -/
structure Field where
  name : String
  hasDefault : Bool
  check : Decoder Unit

namespace Field

def required {α : Type} (name : String) (decoder : Decoder α) : Field :=
  ⟨name, false, fun value => (decoder value).map fun _ => ()⟩

def defaulted {α : Type} (name : String) (decoder : Decoder α) : Field :=
  ⟨name, true, fun value => (decoder value).map fun _ => ()⟩

end Field

/-- The values of the fields that were found. -/
abbrev Found := List (String × Value)

namespace Found

def value? (found : Found) (name : String) : Option Value :=
  (found.find? fun entry => entry.1 = name).map Prod.snd

/-- The value of a field that must be given. -/
def required {α : Type} (found : Found) (name : String)
    (decoder : Decoder α) : Except DecodeError α :=
  match found.value? name with
  | some value => decoder value
  | none => .error (.missingField name)

/-- The value of a field that may be left out. -/
def defaulted {α : Type} (found : Found) (name : String)
    (decoder : Decoder α) (default : α) : Except DecodeError α :=
  match found.value? name with
  | some value => decoder value
  | none => .ok default

end Found

/-- A record: its name, its fields in order, and its value from the fields
that were found. -/
structure Record (α : Type) where
  name : String
  fields : List Field
  build : Found → Except DecodeError α

namespace Record

variable {α : Type}

def field? (record : Record α) (name : String) : Option Field :=
  record.fields.find? fun field => field.name = name

/-- A number of elements, as errors have it. -/
def elements : Nat → String
  | 1 => "1 element"
  | count => Nat.repr count ++ " elements"

/-- Reads the members of an object, in their order. -/
def members (record : Record α) :
    Found → List (Value × Value) → Except DecodeError Found
  | found, [] => .ok found
  | found, (.string (some name), value) :: rest =>
      match record.field? name with
      | some field => do
          if (found.value? name).isSome then
            throw (.duplicateField name)
          field.check value
          record.members ((name, value) :: found) rest
      | none =>
          if value.isWhole then record.members found rest
          else .error .malformed
  | _, _ :: _ => .error .malformed

/-- Reads the items of an array as the fields, in their order.  `position`
is the number of fields passed. -/
def items (record : Record α) (source : Source) :
    Nat → List Field → List Value → Except DecodeError Found
  | _, [], [] => .ok []
  | position, [], extra =>
      match source with
      | .direct => .error .malformed
      | .takenIn =>
          .error (.invalidLength (position + extra.length)
            (elements position ++ " in sequence"))
      | .given =>
          .error (.invalidLength (position + extra.length)
            "fewer elements in array")
  | position, field :: fields, [] =>
      if field.hasDefault then
        record.items source (position + 1) fields []
      else
        .error (.invalidLength position
          ("struct " ++ record.name ++ " with " ++
            elements record.fields.length))
  | position, field :: fields, item :: rest => do
      field.check item
      let found ← record.items source (position + 1) fields rest
      return (field.name, item) :: found

/-- An object is read by its keys, an array by the order of the fields. -/
def decode (record : Record α) (source : Source) : Decoder α
  | .object members => do record.build (← record.members [] members)
  | .array items => do
      record.build (← record.items source 0 record.fields items)
  | value => .error (wrongType ("struct " ++ record.name) value)

end Record

/-- Decodes a whole text. -/
def decodeText {α : Type} (decoder : Decoder α) (text : String) :
    Except DecodeError α := do
  let document := Document.read text
  let value ← decoder document.value
  if document.trailing then throw .malformed
  return value

/-- Decodes a value that is at hand without a text. -/
def decodeGiven {α : Type} (decoder : Source → Decoder α) (value : Value) :
    Except DecodeError α :=
  (decoder .given value).mapError .detached

end RemovableMedia.Json
