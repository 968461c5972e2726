import Reconciliation.Json

/-! # Reading JSON text

`Json.parse?` accepts one JSON value with optional blanks around it, in which at most 127 arrays and
objects are nested. When an object names a member twice the later value counts. A backslash escape that
denotes half of a surrogate pair has to be followed by the other half.
-/

namespace Reconciliation.Json

private def isBlank (c : Char) : Bool :=
  c = ' ' || c = '\t' || c = '\n' || c = '\r'

private def skipBlanks (input : List Char) : List Char :=
  input.dropWhile isBlank

private def hexDigit? (c : Char) : Option Nat :=
  if '0' ≤ c && c ≤ '9' then some (c.toNat - '0'.toNat)
  else if 'a' ≤ c && c ≤ 'f' then some (c.toNat - 'a'.toNat + 10)
  else if 'A' ≤ c && c ≤ 'F' then some (c.toNat - 'A'.toNat + 10)
  else none

/-- The code unit written as four hexadecimal digits. -/
private def codeUnit? : List Char → Option (Nat × List Char)
  | a :: b :: c :: d :: rest => do
      let a ← hexDigit? a
      let b ← hexDigit? b
      let c ← hexDigit? c
      let d ← hexDigit? d
      return (((a * 16 + b) * 16 + c) * 16 + d, rest)
  | _ => none

/-- The character of the code unit `unit`, together with its partner if it opens a surrogate pair. -/
private def joinUnits? (unit : Nat) (rest : List Char) : Option (Char × List Char) :=
  if unit < 0xD800 || 0xDFFF < unit then some (Char.ofNat unit, rest)
  else if unit < 0xDC00 then
    match rest with
    | '\\' :: 'u' :: rest => do
        let (low, rest) ← codeUnit? rest
        if 0xDC00 ≤ low && low ≤ 0xDFFF then
          return (Char.ofNat (0x10000 + (unit - 0xD800) * 0x400 + (low - 0xDC00)), rest)
        else none
    | _ => none
  else none

/-- The character of the escape whose backslash has been read. -/
private def escape? : List Char → Option (Char × List Char)
  | '"' :: rest => some ('"', rest)
  | '\\' :: rest => some ('\\', rest)
  | '/' :: rest => some ('/', rest)
  | 'b' :: rest => some ('\x08', rest)
  | 'f' :: rest => some ('\x0c', rest)
  | 'n' :: rest => some ('\n', rest)
  | 'r' :: rest => some ('\r', rest)
  | 't' :: rest => some ('\t', rest)
  | 'u' :: rest => do
      let (unit, rest) ← codeUnit? rest
      joinUnits? unit rest
  | _ => none

/-- The rest of a string whose opening quote has been read; `done` holds what came before, last first.
The fuel bounds the number of characters of the string. -/
private def stringTail? : Nat → List Char → List Char → Option (String × List Char)
  | 0, _, _ => none
  | _ + 1, _, [] => none
  | fuel + 1, done, c :: rest =>
      if c = '"' then some (String.ofList done.reverse, rest)
      else if c = '\\' then do
        let (escaped, rest) ← escape? rest
        stringTail? fuel (escaped :: done) rest
      else if c.toNat < 0x20 then none
      else stringTail? fuel (c :: done) rest

private def readString? (input : List Char) : Option (String × List Char) :=
  stringTail? (input.length + 1) [] input

private def natural (digits : List Char) : Nat :=
  digits.foldl (fun value digit => value * 10 + (digit.toNat - '0'.toNat)) 0

/-- Digits of the whole part: a single zero, or digits that do not start with one. -/
private def wholePart? (input : List Char) : Option (List Char × List Char) :=
  match input.takeWhile Char.isDigit, input.dropWhile Char.isDigit with
  | [], _ => none
  | ['0'], rest => some (['0'], rest)
  | '0' :: _, _ => none
  | digits, rest => some (digits, rest)

/-- The text of an optional fraction, empty if there is none. -/
private def fraction? : List Char → Option (List Char × List Char)
  | '.' :: rest =>
      match rest.takeWhile Char.isDigit with
      | [] => none
      | digits => some ('.' :: digits, rest.dropWhile Char.isDigit)
  | rest => some ([], rest)

/-- The text of an optional exponent, empty if there is none. -/
private def exponent? (input : List Char) : Option (List Char × List Char) :=
  let digits? (mark : List Char) (rest : List Char) :=
    match rest.takeWhile Char.isDigit with
    | [] => none
    | digits => some (mark ++ digits, rest.dropWhile Char.isDigit)
  match input with
  | c :: rest =>
      if c = 'e' || c = 'E' then
        match rest with
        | '+' :: rest => digits? [c, '+'] rest
        | '-' :: rest => digits? [c, '-'] rest
        | rest => digits? [c] rest
      else some ([], input)
  | [] => some ([], [])

/-- A number without its sign. Minus zero is not an integer: there is no such integer. -/
private def number? (negative : Bool) (input : List Char) : Option (Json × List Char) := do
  let (whole, rest) ← wholePart? input
  let (fraction, rest) ← fraction? rest
  let (exponent, rest) ← exponent? rest
  let sign := if negative then ['-'] else []
  if fraction.isEmpty && exponent.isEmpty && !(negative && natural whole == 0) then
    let value : Int := natural whole
    return (.integer (if negative then -value else value), rest)
  else
    return (.fractional (String.ofList (sign ++ whole ++ fraction ++ exponent)), rest)

private def expect? (word : List Char) (value : Json) (input : List Char) : Option (Json × List Char) :=
  if word.isPrefixOf input then some (value, input.drop word.length) else none

mutual

/-- One value. The fuel bounds the depth of the calls; twice the length of the text is enough,
because no two nested calls in a row leave the text as it is. -/
private def readValue? : Nat → List Char → Option (Json × List Char)
  | 0, _ => none
  | fuel + 1, input =>
      match skipBlanks input with
      | '"' :: rest => (readString? rest).map fun (text, rest) => (.string text, rest)
      | '[' :: rest =>
          match skipBlanks rest with
          | ']' :: rest => some (.array [], rest)
          | rest => (readItems? fuel rest).map fun (items, rest) => (.array items, rest)
      | '{' :: rest =>
          match skipBlanks rest with
          | '}' :: rest => some (.object [], rest)
          | rest => (readMembers? fuel [] rest).map fun (members, rest) => (.object members, rest)
      | 't' :: rest => expect? "rue".toList (.bool true) rest
      | 'f' :: rest => expect? "alse".toList (.bool false) rest
      | 'n' :: rest => expect? "ull".toList .null rest
      | '-' :: rest => number? true rest
      | rest => number? false rest

/-- The items of an array up to its closing bracket, at least one. -/
private def readItems? : Nat → List Char → Option (List Json × List Char)
  | 0, _ => none
  | fuel + 1, input => do
      let (item, rest) ← readValue? fuel input
      match skipBlanks rest with
      | ',' :: rest =>
          let (items, rest) ← readItems? fuel rest
          return (item :: items, rest)
      | ']' :: rest => return ([item], rest)
      | _ => none

/-- The members of an object up to its closing brace, at least one, added to those read before. -/
private def readMembers? :
    Nat → List (String × Json) → List Char → Option (List (String × Json) × List Char)
  | 0, _, _ => none
  | fuel + 1, done, input =>
      match skipBlanks input with
      | '"' :: rest => do
          let (name, rest) ← readString? rest
          match skipBlanks rest with
          | ':' :: rest =>
              let (value, rest) ← readValue? fuel rest
              let done := setMember name value done
              match skipBlanks rest with
              | ',' :: rest => readMembers? fuel done rest
              | '}' :: rest => return (done, rest)
              | _ => none
          | _ => none
      | _ => none

end

mutual

/-- How many arrays and objects are nested in a value at its deepest place. -/
def depth : Json → Nat
  | .array items => depthOfItems items + 1
  | .object members => depthOfMembers members + 1
  | _ => 0

private def depthOfItems : List Json → Nat
  | [] => 0
  | item :: items => max (depth item) (depthOfItems items)

private def depthOfMembers : List (String × Json) → Nat
  | [] => 0
  | (_, value) :: members => max (depth value) (depthOfMembers members)

end

/-- How deep a value may be to be read. -/
def maxDepth : Nat := 127

/-- The value that `text` is the JSON text of, unless it is too deep. -/
def parse? (text : String) : Option Json :=
  let input := text.toList
  match readValue? (2 * input.length + 2) input with
  | some (value, rest) =>
      if (skipBlanks rest).isEmpty && decide (value.depth ≤ maxDepth) then some value else none
  | none => none

end Reconciliation.Json
