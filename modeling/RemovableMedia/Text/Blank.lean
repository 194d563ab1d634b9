/-!
# Blank characters

The characters with the Unicode property White_Space, and the removal of
blanks from both ends of a text.
-/

namespace RemovableMedia.Text

/-- Is it white space in the sense of Unicode? -/
def isBlank (c : Char) : Bool :=
  ('\u0009' ≤ c && c ≤ '\u000d') || c = '\u0020' || c = '\u0085' ||
    c = '\u00a0' || c = '\u1680' || ('\u2000' ≤ c && c ≤ '\u200a') ||
    c = '\u2028' || c = '\u2029' || c = '\u202f' || c = '\u205f' ||
    c = '\u3000'

/-- The text without the blanks at its two ends. -/
def trim (text : List Char) : List Char :=
  ((text.dropWhile isBlank).reverse.dropWhile isBlank).reverse

example : trim " \u3000a b\u00a0\n".toList = "a b".toList := by decide

end RemovableMedia.Text
