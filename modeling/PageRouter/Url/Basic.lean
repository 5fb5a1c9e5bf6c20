import PageRouter.Text.AsciiCase

/-!
# Addresses

The parts of an address, the ways an address can be wrong, and the schemes.  A scheme decides three
things: whether a host has to follow, whether a backslash counts as a slash, and how a path is read.
-/

set_option autoImplicit false

namespace PageRouter.Url

/-- Why a text is not an address. -/
inductive Fault where
  | emptyHost
  | badDomain
  | badPort
  | badIpv4
  | badIpv6
  | badHostCharacter
deriving DecidableEq, Repr

/-- The wording of a fault. -/
def Fault.message : Fault → String
  | .emptyHost => "empty host"
  | .badDomain => "invalid international domain name"
  | .badPort => "invalid port number"
  | .badIpv4 => "invalid IPv4 address"
  | .badIpv6 => "invalid IPv6 address"
  | .badHostCharacter => "invalid domain character"

/-- What is kept of an address: where it leads on its host. -/
structure Parts where
  path : List Char
  query : Option (List Char)
  fragment : Option (List Char)
deriving DecidableEq, Repr

/-- The kinds of scheme. -/
inductive Scheme where
  /-- The scheme of the base, which references may repeat. -/
  | http
  /-- Another scheme whose addresses always name a host. -/
  | network
  | file
  /-- Any other scheme.  A host is optional, and so is a path of segments. -/
  | other
deriving DecidableEq, Repr

/-- The kind of a scheme by its name, in small letters. -/
def Scheme.ofName (name : List Char) : Scheme :=
  if name = "http".toList then .http
  else if name ∈ ["https".toList, "ws".toList, "wss".toList, "ftp".toList] then .network
  else if name = "file".toList then .file
  else .other

/-- Whether a scheme is one of those that browsers know. -/
def Scheme.isSpecial : Scheme → Bool
  | .other => false
  | _ => true

/-- Whether a character separates segments of a path. -/
def Scheme.isSeparator (scheme : Scheme) (c : Char) : Bool :=
  c == '/' || (scheme.isSpecial && c == '\\')

/-- Whether a character may stand in a scheme behind its first letter. -/
def isSchemeChar (c : Char) : Bool := c.isAlphanum || c == '+' || c == '-' || c == '.'

/-- The scheme at the front of a text, and what stands behind its colon. -/
def readScheme? : List Char → Option (Scheme × List Char)
  | [] => none
  | c :: cs =>
    if !c.isAlpha then none
    else
      match cs.dropWhile isSchemeChar with
      | ':' :: rest => some (.ofName ((c :: cs.takeWhile isSchemeChar).map Char.toLower), rest)
      | _ => none

end PageRouter.Url
