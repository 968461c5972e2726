import Reconciliation.Text.Utf8

/-! # Bytes as base64 text

The standard alphabet with padding. `decode` accepts exactly the texts that `encode` writes: the
padding has to be there, and the bits that a last digit has to spare have to be zero. Of any other text it
says what is wrong. A text is decoded from its UTF-8 form, and an offset counts the bytes in front.
-/

namespace Reconciliation.Text.Base64

/-- What is wrong with a text. -/
inductive Problem
  /-- A byte is no digit, or is padding where none can be. -/
  | symbol (byte : UInt8) (offset : Nat)
  /-- The text ends behind the first digit of a group. -/
  | length (count : Nat)
  /-- The last group is too short. -/
  | padding
  /-- The spare bits of the last digit are not zero. -/
  | lastSymbol (byte : UInt8) (offset : Nat)
deriving DecidableEq, Repr

def Problem.text : Problem → String
  | symbol byte offset =>
      "Invalid symbol " ++ toString byte.toNat ++ ", offset " ++ toString offset ++ "."
  | length count => "Invalid input length: " ++ toString count
  | padding => "Invalid padding"
  | lastSymbol byte offset =>
      "Invalid last symbol " ++ toString byte.toNat ++ ", offset " ++ toString offset ++ "."

/-- The digit of a value below 64. -/
def digit (value : Nat) : Char :=
  if value < 26 then Char.ofNat (value + 'A'.toNat)
  else if value < 52 then Char.ofNat (value - 26 + 'a'.toNat)
  else if value < 62 then Char.ofNat (value - 52 + '0'.toNat)
  else if value = 62 then '+' else '/'

/-- The value of a digit. -/
def value? (byte : UInt8) : Option Nat :=
  let code := byte.toNat
  if 'A'.toNat ≤ code && code ≤ 'Z'.toNat then some (code - 'A'.toNat)
  else if 'a'.toNat ≤ code && code ≤ 'z'.toNat then some (code - 'a'.toNat + 26)
  else if '0'.toNat ≤ code && code ≤ '9'.toNat then some (code - '0'.toNat + 52)
  else if code = '+'.toNat then some 62
  else if code = '/'.toNat then some 63
  else none

/-- The byte that stands for a digit that is not needed. -/
def pad : UInt8 := '='.toUInt8

/-- The digits of a list of bytes. -/
def encodeChars : List UInt8 → List Char
  | a :: b :: c :: rest =>
      digit (a.toNat / 4) :: digit (a.toNat % 4 * 16 + b.toNat / 16) ::
        digit (b.toNat % 16 * 4 + c.toNat / 64) :: digit (c.toNat % 64) :: encodeChars rest
  | [a, b] => [digit (a.toNat / 4), digit (a.toNat % 4 * 16 + b.toNat / 16), digit (b.toNat % 16 * 4), '=']
  | [a] => [digit (a.toNat / 4), digit (a.toNat % 4 * 16), '=', '=']
  | [] => []

/-- The value of the digit at an offset. -/
def valueAt (offset : Nat) (byte : UInt8) : Except Problem Nat :=
  match value? byte with
  | some value => .ok value
  | none => .error (.symbol byte offset)

/-- The bytes of the four digits from an offset on. -/
def decodeFour (offset : Nat) (a b c d : UInt8) : Except Problem (List UInt8) := do
  let a ← valueAt offset a
  let b ← valueAt (offset + 1) b
  let c ← valueAt (offset + 2) c
  let d ← valueAt (offset + 3) d
  return [UInt8.ofNat (a * 4 + b / 16), UInt8.ofNat (b % 16 * 16 + c / 4), UInt8.ofNat (c % 4 * 64 + d)]

/-- The bytes of the last four digits, of which one or two may be padding. -/
def decodeLast (offset : Nat) (a b c d : UInt8) : Except Problem (List UInt8) :=
  if d ≠ pad && c ≠ pad then decodeFour offset a b c d
  else do
    let first ← valueAt offset a
    let second ← valueAt (offset + 1) b
    if c = pad then
      if d ≠ pad then .error (.symbol pad (offset + 2))
      else if second % 16 ≠ 0 then .error (.lastSymbol b (offset + 1))
      else .ok [UInt8.ofNat (first * 4 + second / 16)]
    else
      let third ← valueAt (offset + 2) c
      if third % 4 ≠ 0 then .error (.lastSymbol c (offset + 2))
      else .ok [UInt8.ofNat (first * 4 + second / 16), UInt8.ofNat (second % 16 * 16 + third / 4)]

/-- The bytes of the digits from an offset on. -/
def decodeFrom (offset : Nat) : List UInt8 → Except Problem (List UInt8)
  | [] => .ok []
  | [a] => do
      let _ ← valueAt offset a
      .error (.length (offset + 1))
  | [a, b] => do
      let _ ← valueAt offset a
      let _ ← valueAt (offset + 1) b
      .error .padding
  | [a, b, c] => do
      let _ ← valueAt offset a
      let _ ← valueAt (offset + 1) b
      if c ≠ pad then
        let _ ← valueAt (offset + 2) c
      .error .padding
  | [a, b, c, d] => decodeLast offset a b c d
  | a :: b :: c :: d :: rest => do
      let bytes ← decodeFour offset a b c d
      let more ← decodeFrom (offset + 4) rest
      return bytes ++ more

/-- A byte behind all groups that is neither a digit nor padding, with its offset. It is the problem of a
text whatever is in front of it. -/
def strayLast? (bytes : List UInt8) : Option Problem :=
  match bytes.getLast? with
  | some last =>
      if bytes.length % 4 = 1 && last ≠ pad && (value? last).isNone then
        some (.symbol last (bytes.length - 1))
      else none
  | none => none

/-- The bytes of a list of digits. -/
def decodeBytes (digits : List UInt8) : Except Problem (List UInt8) :=
  match strayLast? digits with
  | some problem => .error problem
  | none => decodeFrom 0 digits

def encode (bytes : List UInt8) : String := String.ofList (encodeChars bytes)

/-- The bytes of a text, or what is wrong with it. -/
def decode (text : String) : Except Problem (List UInt8) := decodeBytes (Utf8.encode text)

/-- The bytes of a text, if nothing is wrong with it. -/
def decode? (text : String) : Option (List UInt8) := (decode text).toOption

end Reconciliation.Text.Base64
