import PageRouter.Text.Invisible

/-!
# Quoted text for diagnostics

`quote` puts a text between double quotes for a person to read: quotes and backslashes are escaped,
the common control characters have short escapes, and every character that would not show, or that
would join onto the character before it, is written by its code point.
-/

set_option autoImplicit false

namespace PageRouter.Text

/-- The digits of a number in base sixteen, in small letters. -/
def hexDigits (n : Nat) : List Char := Nat.toDigits 16 n

/-- A character inside quotes. -/
def quoteChar (c : Char) : List Char :=
  if c = '"' then ['\\', '"']
  else if c = '\\' then ['\\', '\\']
  else if c = '\n' then ['\\', 'n']
  else if c = '\r' then ['\\', 'r']
  else if c = '\t' then ['\\', 't']
  else if c.toNat = 0 then ['\\', '0']
  else if isHidden c then "\\u\x7b".toList ++ hexDigits c.toNat ++ ['\x7d']
  else [c]

/-- A text between double quotes, with all that would not show written out. -/
def quote (s : String) : String :=
  "\"" ++ String.ofList (s.toList.flatMap quoteChar) ++ "\""

end PageRouter.Text
