import PageRouter.Text.Composition
import PageRouter.Text.Invisible
import PageRouter.Text.Joining
import PageRouter.Text.Split
import PageRouter.Url.Direction
import PageRouter.Url.Mapping
import PageRouter.Url.Punycode

/-!
# Domain names

A domain name is compared in one form of all its writings: each character is replaced by what it stands
for, hints to a printer are dropped, and the rest is composed.  A name is refused

* if it holds a code point that may not stand in a name at all, or after that a blank, a control or a
  delimiter of addresses;
* if a label begins with a mark, which has nothing to join, holds a joiner out of its place, or is too long;
* if a label claims to be encoded and is not the encoding of a label in that one form;
* if its labels are not readable together.
-/

set_option autoImplicit false

namespace PageRouter.Url.Domain

/-! ## Single characters -/

/-- Hints to a printer, and letters that only fill a place. -/
def droppedRanges : List (Nat × Nat) :=
  [(0xAD, 0xAD), (0x34F, 0x34F), (0x115F, 0x1160), (0x17B4, 0x17B5), (0x180B, 0x180F),
   (0x200B, 0x200B), (0x2060, 0x2064), (0x206A, 0x206F), (0x3164, 0x3164), (0xFE00, 0xFE0F),
   (0xFEFF, 0xFEFF), (0xFFA0, 0xFFA0), (0x1BCA0, 0x1BCA3), (0x1D173, 0x1D17A), (0xE0100, 0xE01EF)]

/-- Characters that stand for a text with dots in it or say how others are put together, and those that stand in
for what could not be shown. -/
def refusedRanges : List (Nat × Nat) :=
  [(0x2024, 0x2026), (0x2488, 0x249B), (0x2FF0, 0x2FFF), (0x31EF, 0x31EF), (0x33C2, 0x33C2),
   (0x33C7, 0x33C7), (0x33D8, 0x33D8), (0xFE12, 0xFE12), (0xFE19, 0xFE19), (0xFE30, 0xFE30),
   (0xFE52, 0xFE52), (0xFFFC, 0xFFFD), (0x1F100, 0x1F100)]

/-- A letter that was added to its script later than all others. -/
def isLatest (c : Char) : Bool := c == '\u0558'

/-- Whether no name may hold a character. -/
def isRefused (c : Char) : Bool :=
  Text.inRanges refusedRanges c || Text.isUnassigned c && !isLatest c ||
    Text.isInvisible c && c != Text.joiner && c != Text.nonJoiner

/-- What a character of a name stands for, unless no name may hold it. -/
def mapChar? (c : Char) : Option (List Char) :=
  if c.toNat < 0x80 then some [c.toLower]
  else if Text.inRanges droppedRanges c then some []
  else
    match Mapping.target? c with
    | some text => some text
    | none => if isRefused c then none else some [c]

/-- The one form of all writings of a text. -/
def form? (text : List Char) : Option (List Char) :=
  (text.mapM mapChar?).map fun mapped => Text.composed mapped.flatten

/-- The delimiters of an address. -/
def delimiters : List Char :=
  ['%', '#', '/', ':', '<', '>', '?', '@', '[', '\\', ']', '^', '|']

/-- Whether a character may not stand in the form of a name. -/
def isForbidden (c : Char) : Bool := c.toNat ≤ 0x20 || c.toNat == 0x7F || delimiters.contains c

/-! ## Labels -/

/-- The most characters of a label that is not ASCII throughout. -/
def maxLabel : Nat := 1000

/-- The most characters of the encoding of a label. -/
def maxEncoded : Nat := 2000

/-- Whether a label, in its one form, may stand in a name. -/
def isSound (label : List Char) : Bool :=
  !label.head?.any Text.isMark && Text.areJoinersInPlace [] label &&
    (label.all (·.toNat < 0x80) || label.length ≤ maxLabel)

/-- The label behind an encoding.  It is not ASCII throughout, and stands in its one form. -/
def decoded? (code : List Char) : Option (List Char) := do
  guard (code.length ≤ maxEncoded)
  let label ← Punycode.decode? code
  guard (label.any (0x80 ≤ ·.toNat) && form? label == some label)
  return label

/-- A label as it is read: behind `xn--` stands an encoding. -/
def reading? (label : List Char) : Option (List Char) :=
  (match label with
    | 'x' :: 'n' :: '-' :: '-' :: code => decoded? code
    | _ => some label).filter isSound

/-! ## Names -/

/-- A name in the form in which names are compared. -/
def canonical? (name : List Char) : Option (List Char) := do
  let form ← form? name
  guard (form.all fun c => !isForbidden c)
  let labels ← (Text.pieces (· == '.') form).mapM reading?
  guard (Direction.areOrdered labels)
  return form

end PageRouter.Url.Domain
