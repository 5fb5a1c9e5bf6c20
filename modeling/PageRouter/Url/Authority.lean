import PageRouter.Text.Split
import PageRouter.Url.Host

/-!
# Authorities

What stands between two slashes and the path: credentials up to the last `@`, a host, and a port behind a
colon.  `readAuthority` checks all three and gives the text behind them, where the path begins.
-/

set_option autoImplicit false

namespace PageRouter.Url

/-- Whether a character ends an authority. -/
def endsAuthority (scheme : Scheme) (c : Char) : Bool :=
  scheme.isSeparator c || c == '?' || c == '#'

/-- The host, up to the first colon outside brackets, and the rest from that colon on. -/
def cutHost : Bool → List Char → List Char × List Char
  | _, [] => ([], [])
  | isInside, c :: cs =>
    if c = ':' ∧ !isInside then ([], c :: cs)
    else
      let (host, rest) := cutHost (c = '[' || (isInside && c != ']')) cs
      (c :: host, rest)

/-- Check a colon and a port, if they are there.  A backslash ends a port in every scheme; the text from it
on is given back. -/
def readPort : List Char → Except Fault (List Char)
  | ':' :: cs =>
    let (digits, rest) := Text.spanDigits 10 cs
    if 65535 < Text.ofDigits 10 digits then .error .badPort
    else if rest.isEmpty || rest.head? == some '\\' then .ok rest
    else .error .badPort
  | rest => .ok rest

/-- Whether what stands in front of the last `@`, cut at each `@`, is more than an empty name and an
empty password. -/
def hasCredentials (user : List (List Char)) : Bool := !user.isEmpty && user != [[]] && user != [[':']]

/-- Check an authority at the front of a text, and give the text behind it. -/
def readAuthority (scheme : Scheme) (cs : List Char) : Except Fault (List Char) := do
  let (front, rest) := Text.cut (endsAuthority scheme) cs
  let pieces := Text.pieces (· == '@') front
  let user := pieces.dropLast
  let server := pieces.getLast?.getD []
  let (host, port) := cutHost false server
  if host.isEmpty && scheme.isSpecial then throw .emptyHost
  if host.isEmpty && user == [[]] && port.isEmpty && !rest.isEmpty then throw .emptyHost
  let _ ← Host.read scheme host
  if host.isEmpty && !port.isEmpty then throw .emptyHost
  let tail ← readPort port
  if host.isEmpty && hasCredentials user then throw .emptyHost
  return tail ++ rest

end PageRouter.Url
