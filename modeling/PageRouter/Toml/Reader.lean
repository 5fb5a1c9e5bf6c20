/-!
# Reading from the front of a text

A `Reader` takes what it can from the front of a text and gives the rest, or fails.  This module has the few
readers and combinations of readers that the rest of TOML is made of, and the blanks: spaces and tabs, line
breaks with or without a carriage return, and comments, which hold no control characters.

A run of items is read by `repeated`, which reads at most as many items as there are characters.
-/

set_option autoImplicit false

namespace PageRouter.Toml

/-- What is taken from the front of a text, and the rest. -/
abbrev Reader (α : Type) := List Char → Option (α × List Char)

/-! ## Combinations -/

/-- A given text at the front. -/
def literal (text : String) : Reader Unit := fun cs =>
  if text.toList.isPrefixOf cs then some ((), cs.drop text.length) else none

/-- Up to `n` items, as many as there are. -/
def atMost {α : Type} (item : Reader α) : Nat → List Char → List α × List Char
  | 0, cs => ([], cs)
  | n + 1, cs =>
    match item cs with
    | none => ([], cs)
    | some (a, rest) =>
      let (more, rest) := atMost item n rest
      (a :: more, rest)

/-- Items, as many as there are. -/
def repeated {α : Type} (item : Reader α) (cs : List Char) : List α × List Char :=
  atMost item cs.length cs

/-- An item, if it is there. -/
def optional {α : Type} (item : Reader α) (cs : List Char) : Option α × List Char :=
  match item cs with
  | some (a, rest) => (some a, rest)
  | none => (none, cs)

/-- The first of two readers that takes anything. -/
def either {α : Type} (first second : Reader α) : Reader α := fun cs =>
  (first cs).orElse fun _ => second cs

/-- A character of a class. -/
def oneOf (p : Char → Bool) : Reader Char
  | c :: cs => if p c then some (c, cs) else none
  | [] => none

/-! ## Blanks -/

def isBlank (c : Char) : Bool := c == ' ' || c == '\t'

/-- Whether a character may stand in a comment: no control but the tab. -/
def isText (c : Char) : Bool := c == '\t' || (0x20 ≤ c.toNat && c.toNat != 0x7F)

/-- The text behind blanks. -/
def skipBlanks (cs : List Char) : List Char := cs.dropWhile isBlank

/-- A line break. -/
def newline : Reader Unit
  | '\n' :: cs => some ((), cs)
  | '\r' :: '\n' :: cs => some ((), cs)
  | _ => none

/-- The text behind a comment, if one begins here. -/
def skipComment : List Char → List Char
  | '#' :: cs => cs.dropWhile isText
  | cs => cs

/-- The rest of a line that has nothing more to say: blanks, a comment, and a line break or the end of
the text. -/
def lineEnd : Reader Unit := fun cs =>
  match skipComment (skipBlanks cs) with
  | [] => some ((), [])
  | rest => newline rest

/-- The text behind blanks, line breaks and comments.  It fails on a comment that ends wrongly. -/
def skipGap : Bool → List Char → Option (List Char)
  | _, '\n' :: cs => skipGap false cs
  | _, '\r' :: '\n' :: cs => skipGap false cs
  | true, c :: cs => if isText c then skipGap true cs else none
  | true, [] => none
  | false, [] => some []
  | false, c :: cs =>
    if isBlank c then skipGap false cs
    else if c = '#' then skipGap true cs
    else if c = '\r' then none
    else some (c :: cs)

end PageRouter.Toml
