import Listening.Text.Ranges

/-!
# Blank characters

The characters that count as white space in text: the ASCII controls from tab to carriage return,
the four information separators, space, next line, no-break space and the spaces of the general
punctuation and ideographic blocks. Splitting a name into words, trimming a piece of text and
the word pattern of the query language all use this one set.
-/

namespace Listening.Text

/-- Blank characters as ranges of code points. -/
def blankTable : RangeTable := #[
  (0x9, 0xD), (0x1C, 0x20), (0x85, 0x85), (0xA0, 0xA0), (0x1680, 0x1680),
  (0x2000, 0x200A), (0x2028, 0x2029), (0x202F, 0x202F), (0x205F, 0x205F), (0x3000, 0x3000)]

/-- Whether a character is blank (Unicode white space). -/
def isBlank (c : Char) : Bool :=
  blankTable.contains c.toNat

end Listening.Text
