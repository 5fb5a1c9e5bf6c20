import PageRouter.Net.IpAddress
import PageRouter.Url.Basic
import PageRouter.Url.Domain
import PageRouter.Url.Percent

/-!
# Hosts

The host of an address is an IPv6 address in brackets, an IPv4 address in any of its loose forms, or a domain
name.  A name whose last label looks like a number has to be an IPv4 address.  Schemes that browsers do not
know take any text without delimiters as a host.

Of an address only the fact is kept, since nothing connects to it.
-/

set_option autoImplicit false

namespace PageRouter.Url

/-- The host of an address. -/
inductive Host where
  /-- An IPv4 or IPv6 address. -/
  | address
  /-- A name, in the form in which names are compared. -/
  | named (text : List Char)
deriving DecidableEq, Repr

namespace Host

/-! ## Loose IPv4 addresses -/

/-- A part of an IPv4 address: decimal, octal behind a zero, or hexadecimal behind `0x`, where no digits
at all mean zero. -/
def readPart? : List Char → Option Nat
  | [] => none
  | ['0'] => some 0
  | '0' :: c :: digits =>
    if c == 'x' || c == 'X' then
      if digits.isEmpty then some 0 else Text.number? 16 digits
    else Text.number? 8 (c :: digits)
  | digits => Text.number? 10 digits

/-- The labels of a name, without an empty one at the end. -/
def labels (name : List Char) : List (List Char) :=
  let all := Text.pieces (· == '.') name
  if all.getLast? = some [] then all.dropLast else all

/-- Whether the last label of a name looks like a number. -/
def endsInNumber (name : List Char) : Bool :=
  match (labels name).getLast? with
  | some label =>
    (!label.isEmpty && label.all Char.isDigit) || (readPart? label).isSome
  | none => false

/-- Whether numbers make up an IPv4 address: each is an octet, and the last one fills what is left. -/
def isV4Parts (parts : List Nat) : Bool :=
  match parts.reverse with
  | [] => false
  | last :: front => front.length ≤ 3 && front.all (· < 256) && last < Nat.pow 256 (4 - front.length)

/-- Whether a name is an IPv4 address. -/
def isV4 (name : List Char) : Bool := ((labels name).mapM readPart?).any isV4Parts

/-! ## Reading -/

/-- The text between brackets, if a text begins with one: `none` if the bracket is not closed at the
end. -/
def bracketed? : List Char → Option (Option (List Char))
  | '[' :: cs => some (if cs.getLast? = some ']' then some cs.dropLast else none)
  | _ => none

/-- The address between brackets. -/
def ofBracketed : Option (List Char) → Except Fault Host
  | some text => if Net.IpAddress.isV6 text then .ok .address else .error .badIpv6
  | none => .error .badIpv6

/-- A domain name or IPv4 address, which may be percent encoded. -/
def ofDomain (text : List Char) : Except Fault Host :=
  match (decode? text).bind Domain.canonical? with
  | none => .error .badDomain
  | some name =>
    if name.isEmpty then .error .emptyHost
    else if !endsInNumber name then .ok (.named name)
    else if isV4 name then .ok .address
    else .error .badIpv4

/-- The characters that no host may hold. -/
def delimiters : List Char :=
  ['\x00', '\t', '\n', '\r', ' ', '#', '/', ':', '<', '>', '?', '@', '[', '\\', ']', '^', '|']

/-- Read the host of an address of some scheme. -/
def read (scheme : Scheme) (text : List Char) : Except Fault Host :=
  match bracketed? text with
  | some inner => ofBracketed inner
  | none =>
    if scheme.isSpecial then ofDomain text
    else if text.any delimiters.contains then .error .badHostCharacter
    else .ok (.named text)

end Host

end PageRouter.Url
