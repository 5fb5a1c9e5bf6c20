import PageRouter.Text.Number
import PageRouter.Toml.Reader

/-!
# Strings of TOML

There are four kinds: in double quotes with escapes, in single quotes without, and each of these between
three quotes over several lines.  A line break in a string counts as a line feed, one at its very beginning
does not count, and a backslash at the end of a line takes away all blanks up to the next word.  Up to two
quotes may stand in front of the closing three.
-/

set_option autoImplicit false

namespace PageRouter.Toml

/-! ## Pieces -/

/-- A number of exactly `n` hexadecimal digits, as a character. -/
def codePoint (n : Nat) : Reader Char := fun cs =>
  match Text.number? 16 (cs.take n) with
  | some point =>
    if (cs.take n).length = n ∧ point.isValidChar then some (.ofNat point, cs.drop n) else none
  | none => none

/-- What stands behind a backslash. -/
def escapeCode : Reader Char
  | 'b' :: cs => some ('\x08', cs)
  | 't' :: cs => some ('\t', cs)
  | 'n' :: cs => some ('\n', cs)
  | 'f' :: cs => some ('\x0c', cs)
  | 'r' :: cs => some ('\r', cs)
  | '"' :: cs => some ('"', cs)
  | '\\' :: cs => some ('\\', cs)
  | 'u' :: cs => codePoint 4 cs
  | 'U' :: cs => codePoint 8 cs
  | _ => none

/-- A character in double quotes, as itself or escaped. -/
def basicPiece : Reader (List Char)
  | '\\' :: cs => (escapeCode cs).map fun (c, rest) => ([c], rest)
  | c :: cs => if c != '"' && isText c then some ([c], cs) else none
  | [] => none

/-- A character in single quotes. -/
def literalPiece : Reader (List Char)
  | c :: cs => if c != '\'' && isText c then some ([c], cs) else none
  | [] => none

/-- A line break in a string. -/
def breakPiece : Reader (List Char) := fun cs => (newline cs).map fun (_, rest) => (['\n'], rest)

/-- One or two quotes that do not close a string of several lines. -/
def quotePiece (quote : Char) : Reader (List Char)
  | c :: d :: e :: cs =>
    if c != quote then none
    else if d != quote then some ([c], d :: e :: cs)
    else if e != quote then some ([c, d], e :: cs)
    else none
  | [c, d] => if c == quote && d != quote then some ([c], [d]) else none
  | _ => none

/-- A backslash at the end of a line, and the blanks and line breaks behind it. -/
def joinPiece : Reader (List Char)
  | '\\' :: cs =>
    match newline (skipBlanks cs) with
    | some (_, rest) =>
      some ([], (repeated (either (fun cs => (oneOf isBlank cs).map fun r => ((), r.2)) newline) rest).2)
    | none => none
  | _ => none

/-! ## Whole strings -/

/-- Pieces up to a closing text. -/
def delimited (piece : Reader (List Char)) (closing : String) : Reader String := fun cs =>
  let (pieces, rest) := repeated piece cs
  (literal closing rest).map fun (_, rest) => (String.ofList pieces.flatten, rest)

/-- A string in double quotes on one line. -/
def basicString : Reader String := fun cs => do
  delimited basicPiece "\"" (← literal "\"" cs).2

/-- A string in single quotes on one line. -/
def literalString : Reader String := fun cs => do
  delimited literalPiece "'" (← literal "'" cs).2

/-- Three closing quotes, and up to two in front of them that belong to the string. -/
def closingQuotes (quote : Char) : Reader (List Char) := fun cs =>
  let n := min 5 (cs.takeWhile (· == quote)).length
  if 3 ≤ n then some (List.replicate (n - 3) quote, cs.drop n) else none

/-- A string over several lines, behind its opening quotes. -/
def longString (piece : Reader (List Char)) (quote : Char) : Reader String := fun cs => do
  let start := (optional newline cs).2
  let (pieces, rest) := repeated (either piece (quotePiece quote)) start
  let (extra, rest) ← closingQuotes quote rest
  return (String.ofList (pieces.flatten ++ extra), rest)

/-- A string of any kind. -/
def anyString : Reader String := fun cs =>
  match cs with
  | '"' :: '"' :: '"' :: rest =>
    longString (either joinPiece (either basicPiece breakPiece)) '"' rest
  | '\'' :: '\'' :: '\'' :: rest => longString (either literalPiece breakPiece) '\'' rest
  | '"' :: _ => basicString cs
  | _ => literalString cs

end PageRouter.Toml
