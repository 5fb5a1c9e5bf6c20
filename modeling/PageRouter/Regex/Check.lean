import PageRouter.Regex.Reader

/-!
# Valid regular expressions

An expression is valid if it can be read, is not nested too deep, names no group twice, and asks for
nothing that cannot be had in the mode where it stands.

* By default an expression is about Unicode.  There is no table of what Unicode calls a digit, a blank
  or a letter of a word, nor one of letters that differ in case only, so shorthands are refused, and
  where case is ignored every letter.
* Otherwise it is about bytes, and must not match half a character: so there is no negated set and no
  set with letters beyond ASCII, and nothing that matches any byte.

The edges of words of Unicode are valid but not supported.
-/

set_option autoImplicit false

namespace PageRouter.Regex

/-- Why a text is no regular expression that could be used. -/
inductive Fault where
  | malformed
  | unicodeWordEdge
deriving DecidableEq, Repr

/-- The wording of a fault. -/
def Fault.message : Fault → String
  | .malformed => "error building NFA"
  | .unicodeWordEdge =>
    "unsupported regex feature for DFAs: cannot build DFAs for regexes with Unicode word " ++
      "boundaries; switch to ASCII word boundaries, or heuristically enable Unicode word " ++
      "boundaries or use a different regex engine"

/-- The deepest nesting of expressions. -/
def maxDepth : Nat := 250

/-- What the parts of an expression depend on. -/
structure Mode where
  isUnicode : Bool := true
  ignoresCase : Bool := false
deriving DecidableEq, Repr

/-- The mode after a change. -/
def Mode.apply (mode : Mode) (c : Change) : Mode :=
  ⟨c.state .unicode mode.isUnicode, c.state .ignoreCase mode.ignoresCase⟩

/-- Whether a letter is one of ASCII. -/
def Letter.isAscii (l : Letter) : Bool := l.char.toNat < 0x80

/-- Whether a letter may stand in an expression, sets apart. -/
def Letter.isAllowed (mode : Mode) (l : Letter) : Bool :=
  if mode.isUnicode then !mode.ignoresCase else !l.isByte || l.isAscii

/-! ## Sets -/

mutual

/-- Whether a member adds nothing to a set. -/
def Member.isBlank : Member → Bool
  | .nested isNegated s => !isNegated && s.isBlank
  | _ => false

/-- Whether nothing is in a set, nor in the sets that it is put together from. -/
def CharSet.isBlank : CharSet → Bool
  | .union ms => Member.areBlank ms
  | .combination l r => l.isBlank && r.isBlank

/-- Whether all of some members add nothing to a set. -/
def Member.areBlank : List Member → Bool
  | [] => true
  | m :: ms => m.isBlank && Member.areBlank ms

end

mutual

/-- Whether a member may stand in a set where case is not ignored. -/
def Member.isAllowed (isUnicode : Bool) : Member → Bool
  | .letter l => isUnicode || l.isAscii
  | .range a b => isUnicode || a.isAscii && b.isAscii
  | .named isNegated => isUnicode || !isNegated
  | .shorthand isNegated => !isUnicode && !isNegated
  | .nested isNegated s => (isUnicode || !isNegated) && s.isAllowed isUnicode

/-- Whether a set may stand where case is not ignored. -/
def CharSet.isAllowed (isUnicode : Bool) : CharSet → Bool
  | .union ms => Member.areAllowed isUnicode ms
  | .combination l r => l.isAllowed isUnicode && r.isAllowed isUnicode

/-- Whether all of some members may stand in a set where case is not ignored. -/
def Member.areAllowed (isUnicode : Bool) : List Member → Bool
  | [] => true
  | m :: ms => m.isAllowed isUnicode && Member.areAllowed isUnicode ms

end

/-- Whether a set may stand in an expression. -/
def isSetAllowed (mode : Mode) (isNegated : Bool) (s : CharSet) : Bool :=
  if mode.isUnicode then s.isAllowed true && (!mode.ignoresCase || s.isBlank)
  else !isNegated && s.isAllowed false

/-! ## Expressions -/

/-- What is known behind a part of an expression. -/
structure Walk where
  mode : Mode := {}
  /-- Whether there was an edge of a word of Unicode. -/
  hasWordEdge : Bool := false
deriving DecidableEq, Repr

mutual

/-- Walk through an expression, unless something in it cannot be had. -/
def check? (w : Walk) : Regex → Option Walk
  | .empty => some w
  | .edge => some w
  | .letter l => if l.isAllowed w.mode then some w else none
  | .any => if w.mode.isUnicode then some w else none
  | .wordEdge => some { w with hasWordEdge := w.hasWordEdge || w.mode.isUnicode }
  | .shorthand isNegated => if w.mode.isUnicode || isNegated then none else some w
  | .set isNegated s => if isSetAllowed w.mode isNegated s then some w else none
  | .change c => some { w with mode := w.mode.apply c }
  | .repeated r => check? w r
  | .group _ c r =>
    (check? { w with mode := w.mode.apply c } r).map fun after => { after with mode := w.mode }
  | .sequence rs => checkAll? w rs
  | .choice rs => checkAll? w rs

/-- Walk through expressions one after another. -/
def checkAll? (w : Walk) : List Regex → Option Walk
  | [] => some w
  | r :: rs =>
    match check? w r with
    | some after => checkAll? after rs
    | none => none

end

/-- The expression that a text is. -/
def parse (text : String) : Except Fault Regex :=
  match (read? text).filter fun r => r.depth ≤ maxDepth && r.names.eraseDups.length == r.names.length with
  | none => .error .malformed
  | some r =>
    match check? {} r with
    | none => .error .malformed
    | some w => if w.hasWordEdge then .error .unicodeWordEdge else .ok r

end PageRouter.Regex
