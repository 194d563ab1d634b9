import RemovableMedia.Text.Blank

/-!
# Lines of input

Input comes as bytes.  It is read line by line; a line that is not UTF-8
cannot be read, and neither can anything after it.
-/

namespace RemovableMedia.Input

def lineFeed : UInt8 := 10

/-- The lines of a sequence of bytes.  A line feed at the end of the input
starts no further line. -/
def split : List UInt8 → List (List UInt8)
  | [] => []
  | byte :: rest =>
      if byte = lineFeed then [] :: split rest
      else match split rest with
        | [] => [[byte]]
        | line :: lines => (byte :: line) :: lines

/-- The text of a line, if it is UTF-8. -/
def decode? (line : List UInt8) : Option String :=
  String.fromUTF8? ⟨line.toArray⟩

/-- The lines up to the first that cannot be read, and whether there is one. -/
def readable : List (List UInt8) → List String × Bool
  | [] => ([], false)
  | line :: lines =>
      match decode? line with
      | none => ([], true)
      | some text =>
          let (texts, unreadable) := readable lines
          (text :: texts, unreadable)

/-- A line without the blanks around it. -/
def trimmed (line : String) : String := String.ofList (Text.trim line.toList)

end RemovableMedia.Input
