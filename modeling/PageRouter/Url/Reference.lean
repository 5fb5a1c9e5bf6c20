import PageRouter.Url.Authority
import PageRouter.Url.Segments

/-!
# References

A reference is read against the root of a host: it may be a whole address, a path, a query or a fragment.
`resolve` gives the parts of the address that it leads to.  Controls and blanks around the reference do not
count, and neither do tabs and line breaks within it.
-/

set_option autoImplicit false

namespace PageRouter.Url

/-- Whether a character is dropped at either end of a reference. -/
def isBlank (c : Char) : Bool := c.toNat ≤ 0x20

/-- Whether a character is dropped wherever it stands. -/
def isBreak (c : Char) : Bool := c == '\t' || c == '\n' || c == '\r'

/-- A reference without what does not count. -/
def trimmed (cs : List Char) : List Char :=
  (((cs.dropWhile isBlank).reverse.dropWhile isBlank).reverse).filter fun c => !isBreak c

/-- Whether a character ends a path. -/
def endsPath (c : Char) : Bool := c == '?' || c == '#'

/-- The fragment at the end of an address. -/
def readFragment : List Char → Option (List Char)
  | '#' :: cs => some (encode .fragment cs)
  | _ => none

/-- Read what stands behind a path. -/
def readTail (scheme : Scheme) (path : List Char) : List Char → Parts
  | '?' :: cs =>
    let (query, rest) := Text.cut (· == '#') cs
    let place := if scheme.isSpecial then Place.webQuery else .query
    ⟨path, some (encode place query), readFragment rest⟩
  | rest => ⟨path, none, readFragment rest⟩

/-- Read a path of segments, and what stands behind it. -/
def readPath (scheme : Scheme) (cs : List Char) : Parts :=
  let (text, rest) := Text.cut endsPath cs
  readTail scheme (normalPath scheme text) rest

/-- Read a path of segments that may begin with a slash. -/
def readRooted (scheme : Scheme) : List Char → Parts
  | c :: cs => if scheme.isSeparator c then readPath scheme cs else readPath scheme (c :: cs)
  | [] => readPath scheme []

/-- Read a path that has no segments, and what stands behind it. -/
def readOpaque (cs : List Char) : Parts :=
  let (text, rest) := Text.cut endsPath cs
  readTail .other (encode .opaquePath text) rest

/-- Read an authority, and the path behind it. -/
def readHosted (scheme : Scheme) (cs : List Char) : Except Fault Parts := do
  return readRooted scheme (← readAuthority scheme cs)

/-- Whether a text begins with two characters that may stand for slashes. -/
def startsTwice (scheme : Scheme) : List Char → Bool
  | c :: d :: _ => scheme.isSeparator c && scheme.isSeparator d
  | _ => false

/-- A text without the slashes at its front. -/
def dropSlashes (scheme : Scheme) (cs : List Char) : List Char := cs.dropWhile scheme.isSeparator

/-- Read a reference that has no scheme, or only the scheme of the base.  Two slashes lead to a host. -/
def readRelative : List Char → Except Fault Parts
  | '/' :: '/' :: cs => readHosted .http cs
  | cs => if startsTwice .http cs then readHosted .http (dropSlashes .http cs) else
    .ok (readRooted .http cs)

/-- Whether a host makes no difference to a `file` address. -/
def isLocal : Host → Bool
  | .named text => text == "localhost".toList
  | .address => false

/-- Read a `file` address behind its scheme.  When the place of the host is empty, the slash behind
it is part of the path; and a drive letter in the place of the host is no host. -/
def readFile (cs : List Char) : Except Fault Parts :=
  if startsTwice .file cs then
    let (host, rest) := Text.cut (endsAuthority .file) (cs.drop 2)
    if isDrive host then .ok (readPath .file (cs.drop 2))
    else if host.isEmpty then .ok (readPath .file rest)
    else do
      let host ← Host.read .file host
      return if isLocal host then readPath .file rest else readRooted .file rest
  else .ok (readRooted .file cs)

/-- Read an address of a scheme that browsers do not know, behind that scheme. -/
def readOther : List Char → Except Fault Parts
  | '/' :: '/' :: cs => readHosted .other cs
  | '/' :: cs => .ok (readPath .other cs)
  | cs => .ok (readOpaque cs)

/-- Read an address behind its scheme. -/
def readBehind (scheme : Scheme) (cs : List Char) : Except Fault Parts :=
  match scheme with
  | .http => if startsTwice .http cs then readHosted .http (dropSlashes .http cs) else readRelative cs
  | .network => readHosted .network (dropSlashes .network cs)
  | .file => readFile cs
  | .other => readOther cs

/-- Resolve a reference against the root of a host. -/
def resolve (reference : String) : Except Fault Parts :=
  let cs := trimmed reference.toList
  match readScheme? cs with
  | some (scheme, rest) => readBehind scheme rest
  | none => readRelative cs

end PageRouter.Url
