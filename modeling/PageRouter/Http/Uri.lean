import PageRouter.Text.AsciiCase
import PageRouter.Text.Split

/-!
# Request targets

The target of a request is a path with an optional query, a whole address, an authority alone, or a star.
`Uri.parse?` checks that a text is one of these and keeps its path.  The path is kept as it was written:
nothing in it is decoded or resolved.
-/

set_option autoImplicit false

namespace PageRouter.Http

/-- A valid request target. -/
structure Uri where
  /-- The path as it was written; empty for an authority alone. -/
  path : String
deriving DecidableEq, Repr

namespace Uri

/-- The most bytes that a target may have. -/
def maxBytes : Nat := 65534

/-- Characters that may stand in a path or a query although they delimit something elsewhere. -/
def isPlain (c : Char) : Bool :=
  let n := c.toNat
  n == 0x21 || (0x24 ≤ n && n ≤ 0x3B) || n == 0x3D || (0x40 ≤ n && n ≤ 0x5F) ||
    (0x61 ≤ n && n ≤ 0x7A) || n == 0x7C || n == 0x7E || 0x80 ≤ n

/-- Whether a character may stand in a path. -/
def isPathChar (c : Char) : Bool := isPlain c || c == '"' || c == '\x7b' || c == '\x7d'

/-- Whether a character may stand in a query. -/
def isQueryChar (c : Char) : Bool := isPathChar c && c != '"' || c == '?' || c == '`'

/-- The path at the front of a path and query, if both hold only what they may.  A fragment is passed
over. -/
def readPath? (cs : List Char) : Option (List Char) :=
  let (path, rest) := Text.cut (fun c => c == '?' || c == '#') cs
  let query :=
    match rest with
    | '?' :: rest => (Text.cut (· == '#') rest).1
    | _ => []
  if path.all isPathChar && query.all isQueryChar then some path else none

/-! ## Authorities -/

/-- Whether a character may stand in an authority, where a percent sign is a matter of its own. -/
def isAuthorityChar (c : Char) : Bool :=
  c.isAlphanum || ['!', '$', '&', '\'', '(', ')', '*', '+', ',', '-', '.', ':', ';', '=', '@', '[',
    ']', '_', '~'].contains c

/-- What was seen of an authority. -/
structure Scan where
  colons : Nat := 0
  isOpened : Bool := false
  isClosed : Bool := false
  hasPercent : Bool := false
  endsInAt : Bool := false

/-- The most colons between two marks of an authority. -/
def maxColons : Nat := 8

/-- Take one more character of an authority. -/
def Scan.step (s : Scan) (c : Char) : Option Scan :=
  let s := { s with endsInAt := false }
  if c = ':' then
    if maxColons ≤ s.colons then none else some { s with colons := s.colons + 1 }
  else if c = '[' then
    if s.hasPercent || s.isOpened then none else some { s with isOpened := true }
  else if c = ']' then
    if !s.isOpened || s.isClosed then none
    else some { s with isClosed := true, colons := 0, hasPercent := false }
  else if c = '@' then some { s with endsInAt := true, colons := 0, hasPercent := false }
  else if c = '%' then some { s with hasPercent := true }
  else if isAuthorityChar c then some s
  else none

/-- Whether a text is an authority: credentials, a host that may stand in brackets, and a port. -/
def isAuthority (cs : List Char) : Bool :=
  (cs.foldlM Scan.step {}).any fun s =>
    s.isOpened == s.isClosed && s.colons ≤ 1 && !s.endsInAt && !s.hasPercent

/-! ## Whole targets -/

/-- The most characters that the name of a scheme may have. -/
def maxScheme : Nat := 64

def isSchemeChar (c : Char) : Bool :=
  c.isAlphanum || c == '+' || c == '-' || c == '.' || c == '~'

/-- What stands behind the scheme of an address, if it has one.  The inner option is empty when the name
of the scheme is too long. -/
def afterScheme? (cs : List Char) : Option (Option (List Char)) :=
  let name := cs.takeWhile isSchemeChar
  match cs.dropWhile isSchemeChar with
  | ':' :: '/' :: '/' :: rest => some (if name.length ≤ maxScheme then some rest else none)
  | _ => none

/-- The path of an address behind its scheme.  An authority is needed, and a missing path is the root. -/
def readAddress? (cs : List Char) : Option (List Char) := do
  let (authority, rest) := Text.cut (fun c => c == '/' || c == '?' || c == '#') cs
  guard (!authority.isEmpty && isAuthority authority)
  let path ← readPath? rest
  return if path.isEmpty then ['/'] else path

/-- The path of a target. -/
def readTarget? (cs : List Char) : Option (List Char) :=
  match cs with
  | [] => none
  | ['*'] => some ['*']
  | '/' :: _ => readPath? cs
  | _ =>
    match afterScheme? cs with
    | some rest => rest.bind readAddress?
    | none => if isAuthority cs then some [] else none

/-- Read a request target. -/
def parse? (text : String) : Option Uri :=
  if maxBytes < text.utf8ByteSize then none
  else (readTarget? text.toList).map fun path => ⟨String.ofList path⟩

end Uri

end PageRouter.Http
