import PageRouter.Text.Letter

/-!
# Regular expressions

The values of fields that a log filter asks for may be regular expressions.  A filter is only read and
shown here, so nothing is ever matched: an expression keeps as much of itself as decides whether it is
one.  What it does not keep are the bounds of repetitions, the operators between character sets, and
which letters a named set has.

A value ends in front of the first comma, equals sign or closing brace, so there are no counted repetitions, no
properties of characters by name, and no code points in braces.
-/

set_option autoImplicit false

namespace PageRouter

namespace Regex

/-! ## Modes -/

/-- What can be switched on and off from a place in an expression on. -/
inductive Switch where
  | ignoreCase
  | everyLine
  | dotMatchesBreaks
  | lazyFirst
  | unicode
  | carriageReturns
  | spaced
deriving DecidableEq, Repr

/-- The letter of a switch. -/
def Switch.ofLetter? : Char → Option Switch
  | 'i' => some .ignoreCase
  | 'm' => some .everyLine
  | 's' => some .dotMatchesBreaks
  | 'U' => some .lazyFirst
  | 'u' => some .unicode
  | 'R' => some .carriageReturns
  | 'x' => some .spaced
  | _ => none

/-- Switches, each with its new state. -/
abbrev Change := List (Switch × Bool)

/-- The state of a switch after a change. -/
def Change.state (c : Change) (s : Switch) (before : Bool) : Bool :=
  ((c.find? fun e => e.1 == s).map Prod.snd).getD before

/-! ## Expressions -/

/-- A letter of an expression. -/
structure Letter where
  char : Char
  /-- Whether it is written as the number of a byte. -/
  isByte : Bool
deriving DecidableEq, Repr

mutual

/-- A member of a character set. -/
inductive Member where
  | letter (l : Letter)
  | range (first last : Letter)
  /-- A set of ASCII by its name. -/
  | named (isNegated : Bool)
  /-- The digits, the blanks, or the letters of words. -/
  | shorthand (isNegated : Bool)
  | nested (isNegated : Bool) (set : CharSet)

/-- A character set. -/
inductive CharSet where
  | union (members : List Member)
  /-- What two sets share, or in what they differ. -/
  | combination (left right : CharSet)

end

end Regex

/-- A regular expression. -/
inductive Regex where
  | empty
  | letter (l : Regex.Letter)
  /-- Any character. -/
  | any
  /-- The beginning or end of a line or of the text. -/
  | edge
  /-- The beginning or end of a word, or the inside. -/
  | wordEdge
  | shorthand (isNegated : Bool)
  | set (isNegated : Bool) (members : Regex.CharSet)
  /-- A change of mode for the rest of the group. -/
  | change (c : Regex.Change)
  | repeated (r : Regex)
  | group (name : Option String) (c : Regex.Change) (r : Regex)
  | sequence (rs : List Regex)
  | choice (rs : List Regex)

namespace Regex

/-- The members of a sequence as one expression. -/
def ofItems : List Regex → Regex
  | [] => .empty
  | [r] => r
  | rs => .sequence rs

/-- The alternatives of a group as one expression. -/
def ofAlternatives : List Regex → Regex
  | [r] => r
  | rs => .choice rs

/-- Whether an expression can be repeated. -/
def isRepeatable : Regex → Bool
  | .empty | .change _ => false
  | _ => true

/-! ## Depth -/

mutual

/-- How deep sets are nested in a member. -/
def Member.depth : Member → Nat
  | .nested _ s => s.depth + 1
  | _ => 0

/-- How deep sets are nested in a set. -/
def CharSet.depth : CharSet → Nat
  | .union [] => 0
  | .union [m] => m.depth
  | .union ms => Member.depths ms + 1
  | .combination l r => max l.depth r.depth + 1

/-- The greatest depth of some members. -/
def Member.depths : List Member → Nat
  | [] => 0
  | m :: ms => max m.depth (Member.depths ms)

end

mutual

/-- How deep expressions are nested in an expression. -/
def depth : Regex → Nat
  | .set _ s => s.depth + 1
  | .repeated r => r.depth + 1
  | .group _ _ r => r.depth + 1
  | .sequence rs => depths rs + 1
  | .choice rs => depths rs + 1
  | _ => 0

/-- The greatest depth of some expressions. -/
def depths : List Regex → Nat
  | [] => 0
  | r :: rs => max r.depth (depths rs)

end

/-! ## Names of groups -/

mutual

/-- The names of the groups of an expression, in order. -/
def names : Regex → List String
  | .repeated r => r.names
  | .group name _ r => name.toList ++ r.names
  | .sequence rs => namesOfAll rs
  | .choice rs => namesOfAll rs
  | _ => []

/-- The names of the groups of some expressions. -/
def namesOfAll : List Regex → List String
  | [] => []
  | r :: rs => r.names ++ namesOfAll rs

end

end Regex

end PageRouter
