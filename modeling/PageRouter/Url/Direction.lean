import PageRouter.Text.Mark

/-!
# Directions of writing

A domain name with a letter that is written from right to left has to keep its labels readable: each
label begins with a letter, holds letters of one direction only, and ends in a letter or a digit, marks
apart.  A label from right to left does not mix the two kinds of digits.  Other names may be put
together as they please.
-/

set_option autoImplicit false

namespace PageRouter.Url

/-- What a character does to the direction of a text. -/
inductive Direction where
  | leftToRight
  | rightToLeft
  /-- A digit of the common kind. -/
  | digit
  /-- A digit of the kind that Arabic script has of its own. -/
  | arabicDigit
  /-- A mark, which goes along with the character in front of it. -/
  | joined
  | neutral
deriving DecidableEq, Repr

namespace Direction

/-- The common digits, in the three forms that scripts give them. -/
def digitRanges : List (Nat × Nat) := [(0x30, 0x39), (0x6F0, 0x6F9), (0x102E1, 0x102FB)]

def arabicDigitRanges : List (Nat × Nat) :=
  [(0x660, 0x669), (0x66B, 0x66C), (0x10D30, 0x10D39), (0x10D40, 0x10D49), (0x10E60, 0x10E7E)]

/-- Marks that are set as letters from left to right. -/
def letterMarkRanges : List (Nat × Nat) :=
  [(0xCBF, 0xCBF), (0xCC6, 0xCC6), (0x11A07, 0x11A08), (0x11C3F, 0x11C3F)]

/-- The scripts that are written from right to left. -/
def rightToLeftRanges : List (Nat × Nat) :=
  [(0x590, 0x8FF), (0xFB1D, 0xFDFF), (0xFE70, 0xFEFC), (0x10800, 0x10FFF), (0x1E800, 0x1EFFF)]

/-- Signs and symbols that have no direction of their own.  The ranges run on over code points that no name
holds. -/
def neutralRanges : List (Nat × Nat) :=
  [(0xA1, 0xD7), (0xF7, 0xF7), (0x2B9, 0x2BA), (0x2C2, 0x2CF), (0x2D2, 0x2ED), (0x2EF, 0x2FF),
   (0x375, 0x375), (0x3F6, 0x3F6), (0x58A, 0x58F), (0x606, 0x607), (0x609, 0x60A), (0x60C, 0x60C),
   (0x60E, 0x60F), (0x66A, 0x66A), (0x6DE, 0x6DE), (0x6E9, 0x6E9), (0x7F6, 0x7F9), (0x9F2, 0x9F3),
   (0x9FB, 0x9FB), (0xAF1, 0xAF1), (0xBF3, 0xBFA), (0xC78, 0xC7E), (0xE3F, 0xE3F), (0xF3A, 0xF3D),
   (0x1390, 0x1399), (0x1400, 0x1400), (0x169B, 0x169C), (0x17DB, 0x17DB), (0x17F0, 0x180A),
   (0x1940, 0x1945), (0x19DE, 0x19FF), (0x200C, 0x20C1), (0x2104, 0x214D), (0x218A, 0x2335),
   (0x237B, 0x2394), (0x2396, 0x26AB), (0x26AD, 0x27FF), (0x2900, 0x2BFF), (0x2CE5, 0x2CEA),
   (0x2CF9, 0x2CFF), (0x2E00, 0x3004), (0x3008, 0x3020), (0x3030, 0x3030), (0x3037, 0x3037),
   (0x303D, 0x303F), (0x30A0, 0x30A0), (0x30FB, 0x30FB), (0x31C0, 0x31E5), (0x4DC0, 0x4DFF),
   (0xA490, 0xA4C6), (0xA60D, 0xA60F), (0xA673, 0xA673), (0xA67E, 0xA67F), (0xA700, 0xA721),
   (0xA788, 0xA788), (0xA828, 0xA82B), (0xA838, 0xA839), (0xA874, 0xA877), (0xAB6A, 0xAB6B),
   (0xFBC3, 0xFDFF), (0xFE45, 0xFE46), (0x10101, 0x10101), (0x10140, 0x1018C), (0x10190, 0x101A0),
   (0x1091F, 0x1091F), (0x10B39, 0x10B3F), (0x10D6E, 0x10D6E), (0x10ED0, 0x10ED8),
   (0x11052, 0x11065), (0x11660, 0x1166C), (0x11FD5, 0x11FF1), (0x16FE2, 0x16FE2),
   (0x1CC00, 0x1CEF0), (0x1D1E9, 0x1D241), (0x1D245, 0x1D245), (0x1D300, 0x1D356),
   (0x1E2FF, 0x1E2FF), (0x1EEF0, 0x1F12F), (0x1F16D, 0x1F16F), (0x1F1AD, 0x1F1AD),
   (0x1F260, 0x1FBFA)]

/-- Whether a character of ASCII is a sign. -/
def isAsciiSign (c : Char) : Bool := c.toNat < 0x80 && !c.isAlphanum

/-- The direction of a character that a name may hold. -/
def ofChar (c : Char) : Direction :=
  if Text.inRanges digitRanges c then .digit
  else if Text.inRanges arabicDigitRanges c then .arabicDigit
  else if isAsciiSign c || Text.inRanges neutralRanges c then .neutral
  else if Text.inRanges letterMarkRanges c then .leftToRight
  else if Text.isNonspacing c then .joined
  else if Text.inRanges rightToLeftRanges c then .rightToLeft
  else .leftToRight

/-- Whether a label that begins from left to right stays so. -/
def isForward (label : List Direction) : Bool :=
  label.all (fun d => d != .rightToLeft && d != .arabicDigit) &&
    (label.reverse.find? (· != .joined)).any fun d => d == .leftToRight || d == .digit

/-- Whether a label that begins from right to left stays so. -/
def isBackward (label : List Direction) : Bool :=
  label.all (· != .leftToRight) && !(label.contains .digit && label.contains .arabicDigit) &&
    (label.reverse.find? (· != .joined)).any fun d => d != .neutral

/-- Whether a label is readable next to letters from right to left. -/
def isOrdered : List Direction → Bool
  | [] => true
  | .leftToRight :: label => isForward (.leftToRight :: label)
  | .rightToLeft :: label => isBackward (.rightToLeft :: label)
  | _ => false

/-- Whether the labels of a name are readable together. -/
def areOrdered (labels : List (List Char)) : Bool :=
  let directions := labels.map fun l => l.map ofChar
  !(directions.flatten.any fun d => d == .rightToLeft || d == .arabicDigit) ||
    directions.all isOrdered

end Direction

end PageRouter.Url
