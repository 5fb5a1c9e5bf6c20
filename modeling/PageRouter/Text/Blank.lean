import PageRouter.Text.Ranges

/-!
# Blanks

Spaces of every width, tabs, and the ends of lines, paragraphs and pages.
-/

set_option autoImplicit false

namespace PageRouter.Text

/-- The blanks: those of ASCII, with the breaks of lines and pages, and those beyond. -/
def blankRanges : List (Nat × Nat) :=
  [(0x9, 0xD), (0x20, 0x20), (0x85, 0x85), (0xA0, 0xA0), (0x1680, 0x1680), (0x2000, 0x200A),
   (0x2028, 0x2029), (0x202F, 0x202F), (0x205F, 0x205F), (0x3000, 0x3000)]

/-- Whether a character is a blank. -/
def isBlank (c : Char) : Bool := inRanges blankRanges c

end PageRouter.Text
