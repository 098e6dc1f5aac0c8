import MountainRange.Text.Ranges
set_option autoImplicit false

/-!
# Blank characters

The characters that separate words in any script, the four separator control
characters included, and the removal of such characters at the ends of a text.
-/

namespace MountainRange.Text

/-- White space, by code point. -/
def blankRanges : List Range :=
  [(0x9, 0xD), (0x1C, 0x20), (0x85, 0x85), (0xA0, 0xA0), (0x1680, 0x1680), (0x2000, 0x200A),
   (0x2028, 0x2029), (0x202F, 0x202F), (0x205F, 0x205F), (0x3000, 0x3000)]

/-- Whether a character is white space. -/
def isBlank (c : Letter) : Bool := inRanges blankRanges c

/-- The text without the blanks at both its ends. -/
def trim (t : Text) : Text :=
  ((t.dropWhile isBlank).reverse.dropWhile isBlank).reverse

/-- Line feed, tabulators, carriage return, form feed and space. -/
def isPlainBlank (c : Letter) : Bool := (9 ≤ c.toNat && c.toNat ≤ 13) || c = ' '

end MountainRange.Text
