import PageRouter.Text.Mark
import PageRouter.Text.Unassigned

/-!
# Characters that do not show

A character does not show by itself if it is a control, a blank, an invisible sign of formatting, or of private
use, if its code point stands for no character, if it only fills the place of a letter, or if it joins the
character in front of it.  The plain space is the one blank that shows.
-/

set_option autoImplicit false

namespace PageRouter.Text

/-- Controls, signs of formatting, blanks beyond ASCII, ends of lines and paragraphs, and private use. -/
def invisibleRanges : List (Nat × Nat) :=
  [(0x0, 0x1F), (0x7F, 0xA0), (0xAD, 0xAD), (0x600, 0x605), (0x61C, 0x61C), (0x6DD, 0x6DD),
   (0x70F, 0x70F), (0x890, 0x891), (0x8E2, 0x8E2), (0x1680, 0x1680), (0x180E, 0x180E),
   (0x2000, 0x200F), (0x2028, 0x202F), (0x205F, 0x2064), (0x2066, 0x206F), (0x3000, 0x3000),
   (0xE000, 0xF8FF), (0xFEFF, 0xFEFF), (0xFFF9, 0xFFFB), (0x110BD, 0x110BD), (0x110CD, 0x110CD),
   (0x13430, 0x1343F), (0x1BCA0, 0x1BCA3), (0x1D173, 0x1D17A), (0xE0001, 0xE0001),
   (0xE0020, 0xE007F), (0xF0000, 0xFFFFD), (0x100000, 0x10FFFD)]

/-- Whether a character leaves nothing to see. -/
def isInvisible (c : Char) : Bool := inRanges invisibleRanges c

/-- Letters that only fill the place of another. -/
def fillerRanges : List (Nat × Nat) := [(0x115F, 0x1160), (0x3164, 0x3164), (0xFFA0, 0xFFA0)]

/-- Whether a character does not show by itself. -/
def isHidden (c : Char) : Bool :=
  isInvisible c || isUnassigned c || inRanges fillerRanges c || isExtender c

end PageRouter.Text
