/-!
# Layout of TOML text

Blanks, line ends and comments.  A line ends with a line feed, which may
follow a carriage return; a carriage return alone is an error, and so is a
control character in a comment.
-/

namespace RemovableMedia.Toml

/-- Is it a blank within a line? -/
def isBlank (c : Char) : Bool := c = ' ' || c = '\t'

/-- Characters that may stand in comments and in strings. -/
def isPlain (c : Char) : Bool :=
  c = '\t' || (0x20 ≤ c.toNat && c.toNat ≠ 0x7f)

def skipBlanks (text : List Char) : List Char := text.dropWhile isBlank

/-- Does the text start with the end of a line? -/
def startsLine : List Char → Bool
  | '\n' :: _ => true
  | '\r' :: '\n' :: _ => true
  | _ => false

/-- Skips blanks, line ends and comments. -/
def skipLayout (inComment : Bool) : List Char → Option (List Char)
  | [] => some []
  | c :: rest =>
      if c = '\n' then skipLayout false rest
      else if c = '\r' then
        if startsLine (c :: rest) then skipLayout inComment rest else none
      else if inComment then
        if isPlain c then skipLayout true rest else none
      else if isBlank c then skipLayout false rest
      else if c = '#' then skipLayout true rest
      else some (c :: rest)

/-- Skips the end of a line on which nothing more may stand. -/
def endLine (inComment : Bool) : List Char → Option (List Char)
  | [] => some []
  | '\n' :: rest => some rest
  | '\r' :: '\n' :: rest => some rest
  | c :: rest =>
      if inComment then
        if isPlain c then endLine true rest else none
      else if isBlank c then endLine false rest
      else if c = '#' then endLine true rest
      else none

end RemovableMedia.Toml
