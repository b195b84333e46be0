import Scaffold.Text.Ranges

/-!
# Blank characters

The code points with the Unicode property White_Space, and the two operations on texts that depend
on them: trimming and telling whether anything is left.
-/

namespace Scaffold.Text

/-- Ranges of the property White_Space. -/
def blankRanges : CharRanges := [
  (0x9, 0xD), (0x20, 0x20), (0x85, 0x85), (0xA0, 0xA0), (0x1680, 0x1680), (0x2000, 0x200A),
  (0x2028, 0x2029), (0x202F, 0x202F), (0x205F, 0x205F), (0x3000, 0x3000)]

/-- Whether a character is white space in some script. -/
def isBlank (c : Char) : Bool := blankRanges.contains c

/-- Drops the characters of a class from the end of a list. -/
def dropEndWhile (p : Char → Bool) (cs : List Char) : List Char :=
  (cs.reverse.dropWhile p).reverse

/-- Drops the characters of a class from both ends of a text. -/
def trimWhile (p : Char → Bool) (s : String) : String :=
  String.ofList (dropEndWhile p (s.toList.dropWhile p))

/-- Drops white space from both ends of a text. -/
def trim (s : String) : String := trimWhile isBlank s

/-- Whether a text holds nothing but white space. -/
def isBlankText (s : String) : Bool := s.toList.all isBlank

end Scaffold.Text
