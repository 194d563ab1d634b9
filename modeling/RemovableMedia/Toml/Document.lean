import RemovableMedia.Toml.Table

/-!
# TOML documents

A document is a sequence of lines: headers, and keys with values that go into
the table of the last header.  Any fault makes the whole document unreadable.
-/

namespace RemovableMedia.Toml

/-- May the character stand in a key without quotation marks? -/
def isBareKeyChar (c : Char) : Bool :=
  c.isAlphanum || c = '_' || c = '-'

/-- One part of a key. -/
def keyPart? : List Char → Reading
  | '"' :: rest => basicString false false rest
  | '\'' :: rest => literalString false rest
  | text =>
      match text.takeWhile isBareKeyChar with
      | [] => none
      | key => some (key, text.dropWhile isBareKeyChar)

/-- Containers may be nested so deep, and a key may have so many parts. -/
def deepest : Nat := 80

/-- A key of one or more parts: the parts before the last, and the last.
No key has more than `limit` parts, and only blanks stand around them. -/
def key? : (limit : Nat) → List Char →
    Option (List String × String × List Char)
  | 0, _ => none
  | limit + 1, text => do
      let (part, rest) ← keyPart? (skipBlanks text)
      let part := String.ofList part
      match skipBlanks rest with
      | '.' :: rest => do
          let (path, last, rest) ← key? limit rest
          return (part :: path, last, rest)
      | rest => return ([], part, rest)

/-- A value that is a single word. -/
def scalar? (text : List Char) : Option (Value × List Char) := do
  let (first, rest) := word text
  return (.scalar (← Scalar.ofWord? first), rest)

mutual

/-- A value.  `fuel` bounds the number of steps, and `levels` the containers
within one another. -/
def value? : (fuel levels : Nat) → List Char → Option (Value × List Char)
  | 0, _, _ => none
  | fuel + 1, levels, text =>
      match text, levels with
      | '[' :: rest, levels + 1 => items? fuel levels [] rest
      | '\u007b' :: rest, levels + 1 => entries? fuel levels [] rest
      | '[' :: _, 0 => none
      | '\u007b' :: _, 0 => none
      | '"' :: _, _ =>
          (string? text).map fun (s, rest) => (.string (String.ofList s), rest)
      | '\'' :: _, _ =>
          (string? text).map fun (s, rest) => (.string (String.ofList s), rest)
      | _, _ => scalar? text

/-- The rest of an array; the items so far are in reverse. -/
def items? : (fuel levels : Nat) → List Value → List Char →
    Option (Value × List Char)
  | 0, _, _, _ => none
  | fuel + 1, levels, items, text => do
      match ← skipLayout false text with
      | ']' :: rest => return (.array items.reverse, rest)
      | text => do
          let (item, rest) ← value? fuel levels text
          match ← skipLayout false rest with
          | ',' :: rest => items? fuel levels (item :: items) rest
          | ']' :: rest => return (.array (item :: items).reverse, rest)
          | _ => none

/-- The rest of an inline table.  Within it, lines may end wherever blanks may
stand, the insides of keys apart. -/
def entries? : (fuel levels : Nat) → Entries → List Char →
    Option (Value × List Char)
  | 0, _, _, _ => none
  | fuel + 1, levels, entries, text => do
      match ← skipLayout false text with
      | '\u007d' :: rest => return (.table (entryValues entries), rest)
      | text => do
          let (path, key, rest) ← key? deepest text
          let rest ← expect '=' (← skipLayout false rest)
          let (value, rest) ← value? fuel levels (← skipLayout false rest)
          let entries ← entries.insert path key value
          match ← skipLayout false rest with
          | ',' :: rest => entries? fuel levels entries rest
          | '\u007d' :: rest => return (.table (entryValues entries), rest)
          | _ => none

end

/-- What was read so far, and the table that keys go into. -/
structure Draft where
  entries : Entries := []
  current : List String := []

namespace Draft

/-- Puts a value where a key of the current table leads. -/
def insert (draft : Draft) (path : List String) (key : String)
    (value : Value) : Option Draft := do
  let entries ← draft.entries.withinHeader
    (fun _ entries => entries.insert path key value) draft.current
  return { draft with entries }

/-- Starts the table of a header. -/
def define (draft : Draft) (path : List String) (key : String) :
    Option Draft := do
  return ⟨← draft.entries.define path key, path ++ [key]⟩

/-- Starts another table in the array of a header. -/
def append (draft : Draft) (path : List String) (key : String) :
    Option Draft := do
  return ⟨← draft.entries.append path key, path ++ [key]⟩

end Draft

/-- Reads the line that the text starts with. -/
def line? (draft : Draft) : List Char → Option (Draft × List Char)
  | '[' :: '[' :: text => do
      let (path, key, rest) ← key? deepest text
      let rest ← expect ']' (← expect ']' rest)
      return (← draft.append path key, ← endLine false rest)
  | '[' :: text => do
      let (path, key, rest) ← key? deepest text
      let rest ← expect ']' rest
      return (← draft.define path key, ← endLine false rest)
  | text => do
      let (path, key, rest) ← key? deepest text
      let rest ← expect '=' rest
      let (value, rest) ← value? (2 * text.length) deepest (skipBlanks rest)
      return (← draft.insert path key value, ← endLine false rest)

/-- Reads line by line to the end. -/
def lines? : (limit : Nat) → Draft → List Char → Option Draft
  | 0, _, _ => none
  | limit + 1, draft, text => do
      match ← skipLayout false text with
      | [] => return draft
      | text => do
          let (draft, rest) ← line? draft text
          lines? limit draft rest

/-- A mark of the byte order may stand before the text. -/
def skipMark : List Char → List Char
  | '\ufeff' :: rest => rest
  | text => text

/-- The entries of a document. -/
def document? (text : String) : Option (List (String × Value)) := do
  let chars := skipMark text.toList
  let draft ← lines? (chars.length + 1) {} chars
  return entryValues draft.entries

end RemovableMedia.Toml
