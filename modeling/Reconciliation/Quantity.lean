import Reconciliation.Binary64
import Reconciliation.Text.Blank
import Reconciliation.Text.Numeral

/-! # Quantities

A quantity is a decimal number with a suffix: `250m`, `1.5Gi`, `2e3`. Two texts are the same quantity
if their values differ by no more than sixteen units in the last place of the greater one; a text
that is no quantity is the same only as the very same text.
-/

namespace Reconciliation

/-- A decimal number: a sign, its digits, and how many of them follow the point. -/
structure Decimal where
  negative : Bool
  digits : List Nat
  places : Nat
deriving DecidableEq, Repr

namespace Decimal

/-- The decimal digits in front of a text. -/
def digitsOf (text : List Char) : List Nat :=
  (text.takeWhile Char.isDigit).map fun c => c.toNat - '0'.toNat

/-- Read a number without its sign. There is at least one digit before or after the point, and
nothing behind the number. -/
def readMagnitude? (negative : Bool) (text : List Char) : Option Decimal :=
  let whole := digitsOf text
  match text.dropWhile Char.isDigit with
  | [] => if whole.isEmpty then none else some ⟨negative, whole, 0⟩
  | '.' :: rest =>
      let fraction := digitsOf rest
      if (rest.dropWhile Char.isDigit).isEmpty && !(whole ++ fraction).isEmpty then
        some ⟨negative, whole ++ fraction, fraction.length⟩
      else none
  | _ => none

/-- The number that a text with an optional sign denotes. -/
def read? : List Char → Option Decimal
  | '+' :: rest => readMagnitude? false rest
  | '-' :: rest => readMagnitude? true rest
  | text => readMagnitude? false text

/-- The whole number that the digits denote without the point. -/
def coefficient (number : Decimal) : Nat :=
  number.digits.foldl (fun value digit => value * 10 + digit) 0

/-- The nearest number of the binary64 format. -/
def toBinary64 (number : Decimal) : Binary64 :=
  .ofFraction (if number.negative then -(number.coefficient : Int) else number.coefficient)
    (Nat.pow 10 number.places)

end Decimal

/-- What multiplies the number of a quantity. -/
inductive Suffix
  /-- One of the letters for a power of ten, and its exponent; no letter is the exponent zero. -/
  | decimal (exponent : Int)
  /-- One of the letters followed by `i`, for a power of two, and its exponent. -/
  | binary (exponent : Nat)
  /-- A power of ten written as `e` or `E` and its exponent. -/
  | scientific (exponent : Int)
deriving DecidableEq, Repr

namespace Suffix

/-- The greatest exponent that can be written behind `e`. -/
def exponentLimit : Nat := Nat.pow 2 31 - 1

def read? : List Char → Option Suffix
  | [] => some (.decimal 0)
  | ['n'] => some (.decimal (-9))
  | ['u'] => some (.decimal (-6))
  | ['m'] => some (.decimal (-3))
  | ['k'] => some (.decimal 3)
  | ['M'] => some (.decimal 6)
  | ['G'] => some (.decimal 9)
  | ['T'] => some (.decimal 12)
  | ['P'] => some (.decimal 15)
  | ['E'] => some (.decimal 18)
  | ['K', 'i'] => some (.binary 10)
  | ['M', 'i'] => some (.binary 20)
  | ['G', 'i'] => some (.binary 30)
  | ['T', 'i'] => some (.binary 40)
  | ['P', 'i'] => some (.binary 50)
  | ['E', 'i'] => some (.binary 60)
  | c :: rest =>
      if c = 'e' || c = 'E' then (Text.Numeral.signed? exponentLimit rest).map .scientific else none

/-- The factor in the binary64 format. That of a letter is the nearest number; that of a written
exponent is a power computed in the format. -/
def toBinary64 : Suffix → Binary64
  | .decimal exponent =>
      let power := Nat.pow 10 exponent.natAbs
      if exponent < 0 then .ofFraction 1 power else .ofNat power
  | .binary exponent => .ofNat (Nat.pow 2 exponent)
  | .scientific exponent => .pow (.ofNat 10) exponent

end Suffix

/-- A number with its suffix. -/
structure Quantity where
  number : Decimal
  suffix : Suffix
deriving DecidableEq, Repr

namespace Quantity

/-- Whether a character belongs to the number in front of the suffix. -/
def isNumberChar (c : Char) : Bool :=
  c.isDigit || c = '.' || c = '+' || c = '-'

/-- The quantity that a text denotes; blanks around it do not count. -/
def read? (text : String) : Option Quantity := do
  let trimmed := Text.trim text.toList
  let number ← Decimal.read? (trimmed.takeWhile isNumberChar)
  let suffix ← Suffix.read? (trimmed.dropWhile isNumberChar)
  return ⟨number, suffix⟩

/-- The value in the binary64 format. -/
def value (quantity : Quantity) : Binary64 :=
  quantity.number.toBinary64.mul quantity.suffix.toBinary64

/-- The value of a text that denotes a quantity. -/
def value? (text : String) : Option Binary64 := (read? text).map value

/-- Sixteen times the distance from one to the next greater number. -/
def tolerance : Binary64 := .ofFraction 1 (Nat.pow 2 48)

/-- Whether two values are the same up to rounding errors. -/
def close (a b : Binary64) : Bool :=
  (a.sub b).abs.le (tolerance.mul (a.abs.max b.abs))

/-- Whether two texts denote the same quantity. -/
def same (a b : String) : Bool :=
  match value? a, value? b with
  | some x, some y => close x y
  | _, _ => a == b

end Quantity

end Reconciliation
