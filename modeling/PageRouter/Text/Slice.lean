/-!
# Slices

A place in a text is counted in bytes: each character takes one to four of them.  A slice is taken between two
places, and there is none if one of them is inside a character.
-/

set_option autoImplicit false

namespace PageRouter.Text

/-- The text in front of a place and the text behind it. -/
def splitAt? : Nat → List Char → Option (List Char × List Char)
  | 0, cs => some ([], cs)
  | _ + 1, [] => none
  | n + 1, c :: cs =>
    if c.utf8Size ≤ n + 1 then
      (splitAt? (n + 1 - c.utf8Size) cs).map fun (before, behind) => (c :: before, behind)
    else none

/-- The text between two places. -/
def slice? (start stop : Nat) (cs : List Char) : Option String := do
  let (_, rest) ← splitAt? start cs
  let (part, _) ← splitAt? (stop - start) rest
  return String.ofList part

/-- The text from a place on. -/
def sliceFrom? (start : Nat) (cs : List Char) : Option String :=
  (splitAt? start cs).map fun (_, rest) => String.ofList rest

end PageRouter.Text
