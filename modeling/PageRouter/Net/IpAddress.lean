import PageRouter.Text.Number

/-!
# Internet addresses

The strict text forms of addresses.  An IPv4 address is four decimal octets without leading zeros.  An
IPv6 address is eight groups of up to four hexadecimal digits; its last two groups may be written as an
IPv4 address, and one `::` stands for at least one group of zeros.

Readers take what they can from the front of a text and give the rest.
-/

set_option autoImplicit false

namespace PageRouter.Net

/-- An address, as the number that its bits make. -/
inductive IpAddress where
  | v4 (bits : Nat)
  | v6 (bits : Nat)
deriving DecidableEq, Repr, Inhabited

namespace IpAddress

/-- A number at the front of a text: at most `maxDigits` digits if a bound is given, below `bound`, and
without a leading zero unless that is allowed. -/
def readNumber (radix : Nat) (maxDigits : Option Nat) (leadingZeros : Bool) (bound : Nat)
    (cs : List Char) : Option (Nat × List Char) :=
  let (ds, rest) := Text.spanDigits radix cs
  let tooLong := maxDigits.any (· < ds.length)
  let padded := !leadingZeros && ds.head? == some 0 && 1 < ds.length
  let n := Text.ofDigits radix ds
  if ds.isEmpty || tooLong || padded || bound ≤ n then none else some (n, rest)

/-- A given character at the front of a text. -/
def readChar (c : Char) : List Char → Option (List Char)
  | d :: rest => if d = c then some rest else none
  | [] => none

/-- `n` more octets, each behind a point unless it is the first. -/
def readOctets : Nat → Bool → List Char → Option (List Nat × List Char)
  | 0, _, cs => some ([], cs)
  | n + 1, isFirst, cs => do
    let cs ← if isFirst then some cs else readChar '.' cs
    let (octet, rest) ← readNumber 10 (some 3) false 256 cs
    let (octets, rest) ← readOctets n false rest
    return (octet :: octets, rest)

/-- The four octets of an IPv4 address. -/
def readV4 (cs : List Char) : Option (List Nat × List Char) := readOctets 4 true cs

/-- Groups of an IPv6 address read from the front of a text. -/
structure Groups where
  groups : List Nat
  /-- Whether the last two groups were written as an IPv4 address. -/
  embedded : Bool
  rest : List Char

/-- As many groups as there are, up to `room`.  An embedded IPv4 address needs room for two and ends
the run. -/
def readGroups : Nat → Bool → List Char → Groups
  | 0, _, cs => ⟨[], false, cs⟩
  | room + 1, isFirst, cs =>
    let body := if isFirst then some cs else readChar ':' cs
    match (if room = 0 then none else body.bind readV4) with
    | some (octets, rest) =>
      ⟨[Text.ofDigits 256 (octets.take 2), Text.ofDigits 256 (octets.drop 2)], true, rest⟩
    | none =>
      match body.bind (readNumber 16 (some 4) true 65536) with
      | some (group, rest) =>
        let more := readGroups room false rest
        ⟨group :: more.groups, more.embedded, more.rest⟩
      | none => ⟨[], false, cs⟩

/-- The eight groups of an IPv6 address. -/
def readV6 (cs : List Char) : Option (List Nat × List Char) :=
  let front := readGroups 8 true cs
  let size := front.groups.length
  if size = 8 then some (front.groups, front.rest)
  else if front.embedded then none
  else do
    let rest ← readChar ':' front.rest
    let rest ← readChar ':' rest
    let back := readGroups (7 - size) true rest
    let zeros := List.replicate (8 - size - back.groups.length) 0
    return (front.groups ++ zeros ++ back.groups, back.rest)

/-- Whether a whole text is an IPv6 address. -/
def isV6 (cs : List Char) : Bool := (readV6 cs).any fun r => r.2.isEmpty

/-- The addresses of the machine itself, for itself. -/
def isLoopback : IpAddress → Bool
  | .v4 bits => bits / Nat.pow 2 24 == 127
  | .v6 bits => bits == 1

/-- The address that stands for every address of the machine. -/
def isUnspecified : IpAddress → Bool
  | .v4 bits => bits == 0
  | .v6 bits => bits == 0

end IpAddress

end PageRouter.Net
