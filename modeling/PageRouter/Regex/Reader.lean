import PageRouter.Regex.Basic
import PageRouter.Text.Blank
import PageRouter.Text.Number

/-!
# Reading regular expressions

The readers take an expression, a set or a letter from the front of a text and give the rest.  Those that call
themselves are bounded by `fuel`; each call takes at least one character, so the length of the text is enough.

In the spaced mode blanks and remarks may stand between the parts of an expression.
-/

set_option autoImplicit false

namespace PageRouter.Regex

/-! ## Blanks and remarks -/

/-- A text without the blanks and remarks at its front.  A remark ends with its line. -/
def skipBlanks : (isInRemark : Bool) → List Char → List Char
  | _, [] => []
  | true, c :: cs => skipBlanks (c != '\n') cs
  | false, c :: cs =>
    if Text.isBlank c then skipBlanks false cs
    else if c = '#' then skipBlanks true cs
    else c :: cs

/-- A text without what may be passed over at its front. -/
def skip (isSpaced : Bool) (cs : List Char) : List Char := if isSpaced then skipBlanks false cs else cs

/-- The next character that counts, as far as a range between two letters is concerned: blanks and the sign in
front of a remark are passed over. -/
def peek (isSpaced : Bool) (cs : List Char) : Option Char :=
  if isSpaced then
    match cs.dropWhile Text.isBlank with
    | '#' :: rest => (rest.dropWhile Text.isBlank).head?
    | rest => rest.head?
  else cs.head?

/-! ## Letters behind a backslash -/

/-- Hexadecimal digits of a given number. -/
def readHex? (isSpaced : Bool) : Nat → Nat → List Char → Option (Nat × List Char)
  | 0, n, cs => some (n, cs)
  | count + 1, n, cs =>
    match skip isSpaced cs with
    | [] => none
    | c :: rest => (Text.digit? 16 c).bind fun d => readHex? isSpaced count (n * 16 + d) rest

/-- The number of digits behind the letters that begin a code point. -/
def hexSize? : Char → Option Nat
  | 'x' => some 2
  | 'u' => some 4
  | 'U' => some 8
  | _ => none

/-- The controls that have a letter. -/
def control? : Char → Option Char
  | 'a' => some '\x07'
  | 'f' => some '\x0c'
  | 't' => some '\t'
  | 'n' => some '\n'
  | 'r' => some '\r'
  | 'v' => some '\x0b'
  | _ => none

/-- Whether a character behind a backslash stands for itself. -/
def isEscapable (c : Char) : Bool := c.toNat < 0x80 && !c.isAlphanum && c != '<' && c != '>'

/-- What stands behind a backslash. -/
def readEscape? (isSpaced : Bool) : List Char → Option (Regex × List Char)
  | [] => none
  | c :: cs =>
    match hexSize? c with
    | some count => do
      let (n, rest) ← readHex? isSpaced count 0 cs
      guard n.isValidChar
      return (.letter ⟨.ofNat n, c == 'x'⟩, rest)
    | none =>
      match control? c with
      | some d => some (.letter ⟨d, false⟩, cs)
      | none =>
        if isEscapable c then some (.letter ⟨c, false⟩, cs)
        else if ['d', 's', 'w'].contains c then some (.shorthand false, cs)
        else if ['D', 'S', 'W'].contains c then some (.shorthand true, cs)
        else if ['A', 'z'].contains c then some (.edge, cs)
        else if ['b', 'B', '<', '>'].contains c then some (.wordEdge, cs)
        else none

/-! ## Character sets -/

/-- The sets of ASCII that have a name. -/
def setNames : List String :=
  ["alnum", "alpha", "ascii", "blank", "cntrl", "digit", "graph", "lower", "print", "punct",
    "space", "upper", "word", "xdigit"]

/-- A set by its name, behind a bracket: whether it is negated, and the rest. -/
def readNamed? : List Char → Option (Bool × List Char)
  | ':' :: cs =>
    let (isNegated, cs) :=
      match cs with
      | '^' :: rest => (true, rest)
      | _ => (false, cs)
    match cs.dropWhile (· != ':') with
    | ':' :: ']' :: rest =>
      if setNames.contains (String.ofList (cs.takeWhile (· != ':'))) then some (isNegated, rest) else none
    | _ => none
  | _ => none

/-- One letter of a set, or a shorthand. -/
def readMember? (isSpaced : Bool) : List Char → Option (Member × List Char)
  | [] => none
  | '\\' :: cs =>
    match readEscape? isSpaced cs with
    | some (.letter l, rest) => some (.letter l, rest)
    | some (.shorthand isNegated, rest) => some (.shorthand isNegated, rest)
    | _ => none
  | c :: cs => some (.letter ⟨c, false⟩, cs)

/-- A member of a set: a range if a hyphen follows a letter and does not end the set or begin an operator. -/
def readRange? (isSpaced : Bool) (cs : List Char) : Option (Member × List Char) := do
  let (first, rest) ← readMember? isSpaced cs
  match skip isSpaced rest with
  | [] => none
  | '-' :: rest =>
    if peek isSpaced rest = some ']' || peek isSpaced rest = some '-' then return (first, '-' :: rest)
    else
      match first, ← readMember? isSpaced (skip isSpaced rest) with
      | .letter a, (.letter b, rest) => if a.char ≤ b.char then return (.range a b, rest) else none
      | _, _ => none
  | rest => return (first, rest)

/-- The caret in front of a negated set, and the rest. -/
def readCaret (isSpaced : Bool) (cs : List Char) : Bool × List Char :=
  match skip isSpaced cs with
  | '^' :: rest => (true, rest)
  | rest => (false, rest)

/-- A set that combines what came before an operator with the members behind it; the last member comes first. -/
def CharSet.close (left : Option CharSet) (members : List Member) : CharSet :=
  match left with
  | some l => .combination l (.union members.reverse)
  | none => .union members.reverse

/-- A set up to the bracket that closes it.  Hyphens at its very front stand for themselves, and so does
a closing bracket there. -/
def readSet? : (fuel : Nat) → (isSpaced isAtFront : Bool) → Option CharSet → List Member → List Char →
    Option (CharSet × List Char)
  | 0, _, _, _, _, _ => none
  | fuel + 1, isSpaced, isAtFront, left, members, cs =>
    match skip isSpaced cs with
    | [] => none
    | c :: rest =>
      if isAtFront && c = '-' then
        readSet? fuel isSpaced true left (.letter ⟨c, false⟩ :: members) rest
      else if isAtFront && c = ']' && members.isEmpty then
        readSet? fuel isSpaced false left [.letter ⟨c, false⟩] rest
      else if c = ']' then some (CharSet.close left members, rest)
      else if c = '[' then
        match readNamed? rest with
        | some (isNegated, rest) =>
          readSet? fuel isSpaced false left (.named isNegated :: members) rest
        | none => do
          let (isNegated, rest) := readCaret isSpaced rest
          let (inner, rest) ← readSet? fuel isSpaced true none [] rest
          readSet? fuel isSpaced false left (.nested isNegated inner :: members) rest
      else if (c = '&' || c = '-' || c = '~') && rest.head? = some c then
        readSet? fuel isSpaced false (some (CharSet.close left members)) [] rest.tail
      else do
        let (member, rest) ← readRange? isSpaced (c :: rest)
        readSet? fuel isSpaced false left (member :: members) rest

/-! ## Groups -/

/-- Whether a character may begin the name of a group. -/
def mayBeginName (c : Char) : Bool := c == '_' || Text.isLetter c

/-- Whether a character may stand in the name of a group. -/
def mayStandInName (c : Char) : Bool :=
  c == '_' || c == '.' || c == '[' || c == ']' || Text.isLetterOrDigit c

/-- The name of a group up to the angle bracket that closes it. -/
def readName? (cs : List Char) : Option (String × List Char) :=
  let name := cs.takeWhile (· != '>')
  match cs.dropWhile (· != '>') with
  | '>' :: rest =>
    if name.head?.any mayBeginName && name.tail.all mayStandInName then some (String.ofList name, rest)
    else none
  | _ => none

/-- Switches up to the colon or the bracket behind them.  A minus turns off those that follow it; it
stands once at most, and not at the end. -/
def readSwitches? : (isOn isAtMinus : Bool) → Change → List Char → Option (Change × Char × List Char)
  | _, _, _, [] => none
  | isOn, isAtMinus, changes, c :: cs =>
    if c = ':' || c = ')' then if isAtMinus then none else some (changes.reverse, c, cs)
    else if c = '-' then if isOn then readSwitches? false true changes cs else none
    else
      match Switch.ofLetter? c with
      | none => none
      | some s =>
        if changes.any fun e => e.1 == s then none
        else readSwitches? isOn false ((s, isOn) :: changes) cs

/-- What an opening bracket begins. -/
inductive Opening where
  /-- A change of mode for the rest of the group around it. -/
  | change (c : Change)
  | group (name : Option String) (c : Change)

/-- What stands behind an opening bracket, up to where the group begins. -/
def readOpening? (isSpaced : Bool) (cs : List Char) : Option (Opening × List Char) :=
  match skip isSpaced cs with
  | '?' :: 'P' :: '<' :: rest => (readName? rest).map fun (name, rest) => (.group (some name) [], rest)
  | '?' :: '<' :: rest => (readName? rest).map fun (name, rest) => (.group (some name) [], rest)
  | '?' :: rest =>
    match readSwitches? true false [] rest with
    | some (c, ':', rest) => some (.group none c, rest)
    | some (c, _, rest) => if c.isEmpty then none else some (.change c, rest)
    | none => none
  | rest => some (.group none [], rest)

/-! ## Expressions -/

/-- One part of an expression that is neither a group, a set nor repeated. -/
def readPart? (isSpaced : Bool) : List Char → Option (Regex × List Char)
  | [] => none
  | '\\' :: cs => readEscape? isSpaced cs
  | '.' :: cs => some (.any, cs)
  | '^' :: cs => some (.edge, cs)
  | '$' :: cs => some (.edge, cs)
  | c :: cs => some (.letter ⟨c, false⟩, cs)

/-- An expression up to the bracket that closes its group, or to the end.  `items` are the parts of the
alternative that is being read, and `alternatives` those before it, the last one first. -/
def readBody? : (fuel : Nat) → (isSpaced : Bool) → (items alternatives : List Regex) → List Char →
    Option (Regex × List Char)
  | 0, _, _, _, _ => none
  | fuel + 1, isSpaced, items, alternatives, cs =>
    match skip isSpaced cs with
    | [] => some (ofAlternatives (ofItems items.reverse :: alternatives).reverse, [])
    | c :: rest =>
      if c = ')' then some (ofAlternatives (ofItems items.reverse :: alternatives).reverse, c :: rest)
      else if c = '|' then readBody? fuel isSpaced [] (ofItems items.reverse :: alternatives) rest
      else if c = '(' then
        match readOpening? isSpaced rest with
        | none => none
        | some (.change switches, rest) =>
          readBody? fuel (switches.state .spaced isSpaced) (.change switches :: items) alternatives rest
        | some (.group name switches, rest) =>
          match readBody? fuel (switches.state .spaced isSpaced) [] [] rest with
          | some (r, ')' :: rest) =>
            readBody? fuel isSpaced (.group name switches r :: items) alternatives rest
          | _ => none
      else if c = '[' then do
        let (isNegated, rest) := readCaret isSpaced rest
        let (members, rest) ← readSet? fuel isSpaced true none [] rest
        readBody? fuel isSpaced (.set isNegated members :: items) alternatives rest
      else if c = '?' || c = '*' || c = '+' then
        match items with
        | [] => none
        | r :: items =>
          if r.isRepeatable then
            let rest := if rest.head? = some '?' then rest.tail else rest
            readBody? fuel isSpaced (.repeated r :: items) alternatives rest
          else none
      else if c = '\x7b' then none
      else do
        let (part, rest) ← readPart? isSpaced (c :: rest)
        readBody? fuel isSpaced (part :: items) alternatives rest

/-- The expression that a whole text is. -/
def read? (text : String) : Option Regex :=
  match readBody? (text.toList.length + 1) false [] [] text.toList with
  | some (r, []) => some r
  | _ => none

end PageRouter.Regex
