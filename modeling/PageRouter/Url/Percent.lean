/-!
# Percent encoding

A character that may not stand in some part of an address is written as its bytes, each as a percent sign
and two capital hexadecimal digits.  A percent sign itself is always left alone, so that text which is
already encoded stays as it is.

* `keeps_of_mem_encode`: what is written holds only characters that may stand there.
* `encode_eq_self`: a text of such characters is written as it is, so that encoding twice is encoding
  once.
-/

set_option autoImplicit false

namespace PageRouter.Url

/-- A part of an address, for which characters are encoded in its own way. -/
inductive Place where
  /-- A path that has no segments. -/
  | opaquePath
  | path
  /-- The query of a scheme that browsers know. -/
  | webQuery
  | query
  | fragment
deriving DecidableEq, Repr

/-- The visible characters that have to be encoded in a part. -/
def Place.reserved : Place → List Char
  | .opaquePath => []
  | .path => [' ', '"', '<', '>', '`', '#', '?', '\x7b', '\x7d']
  | .webQuery => [' ', '"', '<', '>', '#', '\'']
  | .query => [' ', '"', '<', '>', '#']
  | .fragment => [' ', '"', '<', '>', '`']

/-- Whether a character may stand in a part as it is.  Controls and everything outside ASCII may not. -/
def Place.keeps (place : Place) (c : Char) : Bool :=
  0x20 ≤ c.toNat && c.toNat < 0x7F && !place.reserved.contains c

/-- A hexadecimal digit, as a capital. -/
def hexDigit (n : Nat) : Char := (Nat.digitChar n).toUpper

/-- A byte in encoded form. -/
def encodeByte (b : UInt8) : List Char := ['%', hexDigit (b.toNat / 16), hexDigit (b.toNat % 16)]

/-- A character as it is written in a part. -/
def encodeChar (place : Place) (c : Char) : List Char :=
  if place.keeps c then [c] else (String.utf8EncodeChar c).flatMap encodeByte

/-- A text as it is written in a part. -/
def encode (place : Place) (cs : List Char) : List Char := cs.flatMap (encodeChar place)

theorem keeps_percent (place : Place) : place.keeps '%' = true := by
  cases place <;> rfl

theorem keeps_hexDigit (place : Place) {n : Nat} (h : n < 16) : place.keeps (hexDigit n) = true := by
  have hall : ∀ p ∈ [Place.opaquePath, .path, .webQuery, .query, .fragment],
      ∀ n ∈ List.range 16, p.keeps (hexDigit n) = true := by decide
  exact hall place (by cases place <;> simp) n (List.mem_range.2 h)

/-- **Encoding leaves only what may stand in the part.** -/
theorem keeps_of_mem_encode {place : Place} {cs : List Char} {c : Char} (h : c ∈ encode place cs) :
    place.keeps c = true := by
  obtain ⟨d, _, hc⟩ := List.mem_flatMap.1 h
  rw [encodeChar] at hc
  split at hc
  · rename_i hd
    rw [List.mem_singleton.1 hc]
    exact hd
  · obtain ⟨b, _, hb⟩ := List.mem_flatMap.1 hc
    have hlt := b.toNat_lt
    simp only [encodeByte, List.mem_cons, List.not_mem_nil, or_false] at hb
    rcases hb with rfl | rfl | rfl
    · exact keeps_percent place
    · exact keeps_hexDigit place (by omega)
    · exact keeps_hexDigit place (by omega)

theorem encode_eq_self {place : Place} {cs : List Char} (h : ∀ c ∈ cs, place.keeps c = true) :
    encode place cs = cs := by
  induction cs with
  | nil => rfl
  | cons c cs ih =>
    have hc : encodeChar place c = [c] := if_pos (h c List.mem_cons_self)
    have hcs := ih fun d hd => h d (List.mem_cons_of_mem c hd)
    simp only [encode] at hcs
    rw [encode, List.flatMap_cons, hc, hcs]
    rfl

/-- A character as its bytes. -/
def bytesOf (cs : List Char) : List UInt8 := cs.flatMap String.utf8EncodeChar

/-- The value of a hexadecimal digit. -/
def hexValue? (c : Char) : Option Nat :=
  if '0' ≤ c ∧ c ≤ '9' then some (c.toNat - '0'.toNat)
  else if 'a' ≤ c ∧ c ≤ 'f' then some (c.toNat - 'a'.toNat + 10)
  else if 'A' ≤ c ∧ c ≤ 'F' then some (c.toNat - 'A'.toNat + 10)
  else none

/-- The bytes of a text in which encoded bytes stand for themselves.  A percent sign without two
hexadecimal digits is an ordinary character. -/
def decodeBytes : List Char → List UInt8
  | [] => []
  | [c] => String.utf8EncodeChar c
  | [c, d] => bytesOf [c, d]
  | c :: d :: e :: cs =>
    if c = '%' then
      match hexValue? d, hexValue? e with
      | some high, some low => .ofNat (16 * high + low) :: decodeBytes cs
      | _, _ => String.utf8EncodeChar c ++ decodeBytes (d :: e :: cs)
    else String.utf8EncodeChar c ++ decodeBytes (d :: e :: cs)

/-- The text that encoded bytes make, if they are UTF-8. -/
def decode? (cs : List Char) : Option (List Char) :=
  (String.fromUTF8? ⟨(decodeBytes cs).toArray⟩).map String.toList

end PageRouter.Url
