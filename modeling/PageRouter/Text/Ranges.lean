/-!
# Classes of characters as ranges

Properties of characters beyond ASCII are tables: lists of ranges of code points, in ascending order, with
both ends included.
-/

set_option autoImplicit false

namespace PageRouter.Text

/-- Whether a character is in one of some ranges of code points. -/
def inRanges (ranges : List (Nat × Nat)) (c : Char) : Bool :=
  ranges.any fun r => r.1 ≤ c.toNat && c.toNat ≤ r.2

end PageRouter.Text
