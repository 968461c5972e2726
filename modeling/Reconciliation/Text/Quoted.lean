import Reconciliation.Text.Printable

/-! # Quoted texts

The form in which a text is shown inside another one: between double quotes, with a backslash before
quotes and backslashes, short escapes for the four common controls, and the code point of every other
character that would not show.
-/

namespace Reconciliation.Text.Quoted

/-- The code point of a character, in hexadecimal digits without leading zeros. -/
def codePoint (c : Char) : List Char :=
  ['\\', 'u', '{'] ++ Nat.toDigits 16 c.toNat ++ ['}']

/-- How one character is shown. -/
def escape (c : Char) : List Char :=
  if c = '"' then ['\\', '"']
  else if c = '\\' then ['\\', '\\']
  else if c = '\n' then ['\\', 'n']
  else if c = '\r' then ['\\', 'r']
  else if c = '\t' then ['\\', 't']
  else if c.toNat = 0 then ['\\', '0']
  else if isPrintable c then [c]
  else codePoint c

/-- The quoted form of a text. -/
def encode (text : String) : String :=
  String.ofList ('"' :: text.toList.flatMap escape ++ ['"'])

end Reconciliation.Text.Quoted
