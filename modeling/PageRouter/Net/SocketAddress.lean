import PageRouter.Net.IpAddress

/-!
# Socket addresses

An address with a port: `127.0.0.1:3000`, or `[::1]:3000` with brackets around an IPv6 address, which may
carry a numeric scope behind a percent sign.  Host names are not addresses.  The port may have leading
zeros, and neither blanks nor signs are allowed anywhere.
-/

set_option autoImplicit false

namespace PageRouter.Net

/-- An address, and a port on it. -/
structure SocketAddress where
  ip : IpAddress
  port : Nat
deriving DecidableEq, Repr, Inhabited

namespace SocketAddress

open IpAddress

/-- A colon and a port number. -/
def readPort (cs : List Char) : Option (Nat × List Char) :=
  (readChar ':' cs).bind (readNumber 10 none true 65536)

def readV4 (cs : List Char) : Option (SocketAddress × List Char) := do
  let (octets, rest) ← IpAddress.readV4 cs
  let (port, rest) ← readPort rest
  return (⟨.v4 (Text.ofDigits 256 octets), port⟩, rest)

/-- The scope of an address, if there is one. -/
def readScope (cs : List Char) : Option (List Char) :=
  match readChar '%' cs with
  | some rest => (readNumber 10 none true (Nat.pow 2 32) rest).map (·.2)
  | none => some cs

def readV6 (cs : List Char) : Option (SocketAddress × List Char) := do
  let rest ← readChar '[' cs
  let (groups, rest) ← IpAddress.readV6 rest
  let rest ← readScope rest
  let rest ← readChar ']' rest
  let (port, rest) ← readPort rest
  return (⟨.v6 (Text.ofDigits 65536 groups), port⟩, rest)

/-- Read a socket address that makes up the whole text. -/
def parse? (text : String) : Option SocketAddress :=
  match (readV4 text.toList).orElse fun _ => readV6 text.toList with
  | some (address, []) => some address
  | _ => none

end SocketAddress

end PageRouter.Net
