import Reconciliation.Json

/-! # Writing JSON text

`Json.render` writes a value without any blanks between its parts. Of the characters of a string only
double quotes, backslashes and the controls below the space are written as escapes, so that the text of a
value has no line feed. `Json.endColumn` says where in such a text a part of the value ends.
-/

namespace Reconciliation.Json

private def hexDigit (value : Nat) : Char :=
  if value < 10 then Char.ofNat ('0'.toNat + value) else Char.ofNat ('a'.toNat + value - 10)

/-- The characters a character of a string is written as. -/
private def escaped (c : Char) : List Char :=
  if c = '"' then ['\\', '"']
  else if c = '\\' then ['\\', '\\']
  else if c = '\x08' then ['\\', 'b']
  else if c = '\t' then ['\\', 't']
  else if c = '\n' then ['\\', 'n']
  else if c = '\x0c' then ['\\', 'f']
  else if c = '\r' then ['\\', 'r']
  else if c < ' ' then ['\\', 'u', '0', '0', hexDigit (c.toNat / 16), hexDigit (c.toNat % 16)]
  else [c]

private def quoted (text : String) : String :=
  String.ofList ('"' :: text.toList.flatMap escaped ++ ['"'])

/-- What stands in front of the value of a member. -/
private def label (name : String) : String := quoted name ++ ":"

mutual

/-- The text of a value. -/
def render : Json → String
  | .null => "null"
  | .bool true => "true"
  | .bool false => "false"
  | .integer value => toString value
  | .fractional literal => literal
  | .string value => quoted value
  | .array items => "[" ++ ",".intercalate (renderItems items) ++ "]"
  | .object members => "\x7b" ++ ",".intercalate (renderMembers members) ++ "\x7d"

private def renderItems : List Json → List String
  | [] => []
  | item :: items => render item :: renderItems items

private def renderMembers : List (String × Json) → List String
  | [] => []
  | (name, value) :: members => (label name ++ render value) :: renderMembers members

end

/-- How many bytes the text of an object has in front of the value of a member, if the members are written
in the order of their names. -/
private def bytesBefore (name : String) (members : List (String × Json)) : Nat :=
  let others := renderMembers (members.filter fun member => decide (member.1 < name))
  ("\x7b" ++ String.join (others.map (· ++ ",")) ++ label name).utf8ByteSize

/-- How many bytes the text of a value has up to the end of the part that the names of members lead to, if
the members of objects are written in the order of their names. -/
def endColumn : List String → Json → Nat
  | name :: path, .object members =>
      bytesBefore name members + ((members.lookup name).map (endColumn path)).getD 0
  | _, json => json.render.utf8ByteSize

end Reconciliation.Json
