import RemovableMedia.Json.Token

/-!
# Reading JSON

Tokens are taken one at a time.  Containers that are still open wait on a
stack, so the depth of nesting is bounded by the text alone.  Reading never
fails: where the text does not go on as JSON, the containers that are open
at that point are completed with a `broken` value.
-/

namespace RemovableMedia.Json

/-- An open container: its completed contents, last first, and for an object
the key whose value is awaited. -/
inductive Frame where
  | array (items : List Value)
  | object (members : List (Value × Value)) (key : Value)

/-- The container with one more value in it and nothing after. -/
def Frame.close (last : Value) : Frame → Value
  | .array items => .array (items.reverse ++ [last])
  | .object members key => .object (members.reverse ++ [(key, last)])

/-- Completes every open container around a value. -/
def closeAll (value : Value) (frames : List Frame) : Value :=
  frames.foldl Frame.close value

/-- How far a text was read. -/
inductive Reader where
  /-- A value must follow. -/
  | start (frames : List Frame)
  /-- An array was opened just now. -/
  | firstItem (frames : List Frame)
  /-- A value of an array is complete. -/
  | afterItem (items : List Value) (frames : List Frame)
  /-- An object was opened just now. -/
  | firstKey (frames : List Frame)
  /-- Another key must follow. -/
  | nextKey (members : List (Value × Value)) (frames : List Frame)
  /-- The colon after a key must follow. -/
  | afterKey (members : List (Value × Value)) (key : Value)
      (frames : List Frame)
  /-- A member of an object is complete. -/
  | afterMember (members : List (Value × Value)) (frames : List Frame)
  /-- The whole value is complete; `trailing` when more text follows it. -/
  | complete (value : Value) (trailing : Bool)
  /-- The text broke off. -/
  | stopped (value : Value)

namespace Reader

/-- The reader once a value is complete. -/
def resume (value : Value) : List Frame → Reader
  | [] => .complete value false
  | .array items :: frames => .afterItem (value :: items) frames
  | .object members key :: frames => .afterMember ((key, value) :: members) frames

/-- Nothing more is read; the values that are open are closed. -/
def stopAtValue (frames : List Frame) : Reader :=
  .stopped (closeAll .broken frames)

/-- The text broke off where a key should stand. -/
def stopAtKey (members : List (Value × Value)) (frames : List Frame) :
    Reader :=
  .stopped (closeAll .broken (.object members .broken :: frames))

/-- What comes of a token where a value must follow. -/
def takeValue (frames : List Frame) : Token → Reader
  | .scalar value => resume value frames
  | .arrayStart => .firstItem frames
  | .objectStart => .firstKey frames
  | _ => stopAtValue frames

/-- What comes of a token where a key must follow. -/
def takeKey (members : List (Value × Value)) (frames : List Frame) :
    Token → Reader
  | .scalar (.string key) => .afterKey members (.string key) frames
  | _ => stopAtKey members frames

/-- Takes in the next token. -/
def step (reader : Reader) (token : Token) : Reader :=
  match reader, token with
  | .start frames, token => takeValue frames token
  | .firstItem frames, .arrayEnd => resume (.array []) frames
  | .firstItem frames, token => takeValue (.array [] :: frames) token
  | .afterItem items frames, .comma => .start (.array items :: frames)
  | .afterItem items frames, .arrayEnd => resume (.array items.reverse) frames
  | .afterItem items frames, _ => stopAtValue (.array items :: frames)
  | .firstKey frames, .objectEnd => resume (.object []) frames
  | .firstKey frames, token => takeKey [] frames token
  | .nextKey members frames, token => takeKey members frames token
  | .afterKey members key frames, .colon =>
      .start (.object members key :: frames)
  | .afterKey members key frames, _ =>
      stopAtValue (.object members key :: frames)
  | .afterMember members frames, .comma => .nextKey members frames
  | .afterMember members frames, .objectEnd =>
      resume (.object members.reverse) frames
  | .afterMember members frames, _ => stopAtKey members frames
  | .complete value _, _ => .complete value true
  | .stopped value, _ => .stopped value

/-- The value that was read when the text ends, and whether text follows. -/
def finish : Reader → Value × Bool
  | .start frames => (closeAll .broken frames, false)
  | .firstItem frames => (closeAll .broken (.array [] :: frames), false)
  | .afterItem items frames =>
      (closeAll .broken (.array items :: frames), false)
  | .firstKey frames => (closeAll .broken (.object [] .broken :: frames), false)
  | .nextKey members frames =>
      (closeAll .broken (.object members .broken :: frames), false)
  | .afterKey members key frames =>
      (closeAll .broken (.object members key :: frames), false)
  | .afterMember members frames =>
      (closeAll .broken (.object members .broken :: frames), false)
  | .complete value trailing => (value, trailing)
  | .stopped value => (value, false)

end Reader

/-- A text that was read: its value, and whether more text follows it. -/
structure Document where
  value : Value
  trailing : Bool

/-- Reads tokens to the end. -/
def Document.ofTokens (tokens : List Token) : Document :=
  let (value, trailing) := (tokens.foldl Reader.step (.start [])).finish
  ⟨value, trailing⟩

/-- Reads a whole text.  There is a value for every text, if only a broken one.
-/
def Document.read (text : String) : Document :=
  .ofTokens (scan text.toList)

end RemovableMedia.Json
