import PageRouter.Path
import PageRouter.Url.Basic
import PageRouter.Url.Percent

/-!
# Segments of an address

The path of an address is walked segment by segment: a segment of one dot is passed over, a segment of two
dots takes back the one before it, and every other segment is encoded.  Dots count in either spelling, as
themselves or as `%2e`.  When the last segment is one of dots, the path ends in a slash.

Drive letters are a law to themselves: two dots never take one back, and at the root of a `file` address a
drive letter is written with a colon.
-/

set_option autoImplicit false

namespace PageRouter.Url

/-- How many dots a segment is made of, if it is made of dots only. -/
def dots? : List Char → Option Nat
  | [] => some 0
  | '.' :: cs => (dots? cs).map (· + 1)
  | '%' :: '2' :: 'e' :: cs => (dots? cs).map (· + 1)
  | '%' :: '2' :: 'E' :: cs => (dots? cs).map (· + 1)
  | _ => none

/-- Whether a segment stands for the place where it is. -/
def isCurrent (s : List Char) : Bool := dots? s == some 1

/-- Whether a segment stands for the place above. -/
def isParent (s : List Char) : Bool := dots? s == some 2

/-- Whether a character may stand behind the letter of a drive. -/
def isDriveMark (c : Char) : Bool := c == ':' || c == '|'

/-- Whether a segment is a drive letter and nothing else. -/
def isDrive : List Char → Bool
  | [c, d] => c.isAlpha && isDriveMark d
  | _ => false

/-- Whether a segment is never taken back: a drive letter, alone or in front of a backslash. -/
def isFixed : List Char → Bool
  | [c, d] => c.isAlpha && isDriveMark d
  | c :: d :: '\\' :: _ => c.isAlpha && isDriveMark d
  | _ => false

/-- Take back the last of the segments so far, which are given last first. -/
def takeBack : List (List Char) → List (List Char)
  | [] => []
  | s :: ss => if isFixed s then s :: ss else ss

/-- The segments, last first, that a segment without dots makes behind others. -/
def placed (scheme : Scheme) (done : List (List Char)) (s : List Char) : List (List Char) :=
  match scheme, done, s with
  | .file, [], [c, d] => if c.isAlpha && isDriveMark d then [[c, ':']] else [encode .path s]
  | _, _, _ => encode .path s :: done

/-- Walk segments from left to right.  `done` holds the segments so far, last first. -/
def walk (scheme : Scheme) (done : List (List Char)) : List (List Char) → List (List Char)
  | [] => done
  | s :: rest =>
    if isParent s then
      let done := takeBack done
      walk scheme (if rest.isEmpty then [] :: done else done) rest
    else if isCurrent s then
      walk scheme (if rest.isEmpty then [] :: done else done) rest
    else walk scheme (placed scheme done s) rest

/-- The text of a path, without its leading slash, as it is written in an address. -/
def normalPath (scheme : Scheme) (text : List Char) : List Char :=
  Path.rooted (walk scheme [] (Text.pieces scheme.isSeparator text)).reverse

end PageRouter.Url
