import Postroom.Text.Ranges

/-!
# White space

The white space of the Unicode standard, and the trimming of it from the ends of a text.
-/

namespace Postroom.Text

/-- Code points with the property `White_Space`. -/
def blanks : Ranges := [
    (0x9, 0xd), (0x20, 0x20), (0x85, 0x85), (0xa0, 0xa0), (0x1680, 0x1680), (0x2000, 0x200a),
    (0x2028, 0x2029), (0x202f, 0x202f), (0x205f, 0x205f), (0x3000, 0x3000)]

/-- Whether a character is white space. -/
def isBlank (c : Char) : Bool := blanks.has c.toNat

/-- A text without its leading white space. -/
def trimStart (cs : List Char) : List Char := cs.dropWhile isBlank

/-- A text without its trailing white space. -/
def trimEnd (cs : List Char) : List Char := (cs.reverse.dropWhile isBlank).reverse

/-- A text without white space at either end. -/
def trim (cs : List Char) : List Char := trimEnd (trimStart cs)

/-- A string without white space at either end. -/
def trimmed (s : String) : String := String.ofList (trim s.toList)

/-- Whether a string holds nothing but white space. -/
def isBlankText (s : String) : Bool := s.toList.all isBlank

end Postroom.Text
