/-! # Whole numbers with a limit

A numeral is a sequence of decimal digits, after at most one sign. It is read from the left, and the
first character that is no digit or takes the value above the limit decides what is wrong with it.
-/

namespace Reconciliation.Text

/-- What is wrong with a text that should be a numeral. -/
inductive NumeralError
  | empty
  | invalidDigit
  | tooLarge
deriving DecidableEq, Repr

namespace Numeral

/-- The value of a decimal digit. -/
def digit? (c : Char) : Option Nat :=
  if c.isDigit then some (c.toNat - '0'.toNat) else none

/-- Read digits after those that denote `value`, as long as the value stays within `limit`. -/
def readDigits (limit : Nat) : Nat → List Char → Except NumeralError Nat
  | value, [] => .ok value
  | value, c :: rest =>
      match digit? c with
      | none => .error .invalidDigit
      | some digit =>
          if value * 10 + digit ≤ limit then readDigits limit (value * 10 + digit) rest
          else .error .tooLarge

/-- Read a number from zero to `limit`. A plus sign may precede the digits; a lone sign is no digit. -/
def unsigned (limit : Nat) : List Char → Except NumeralError Nat
  | [] => .error .empty
  | '+' :: c :: rest => readDigits limit 0 (c :: rest)
  | text => readDigits limit 0 text

/-- The whole number from `-limit - 1` to `limit` that a text with an optional sign denotes. -/
def signed? (limit : Nat) (text : List Char) : Option Int :=
  match text with
  | '-' :: c :: rest => (readDigits (limit + 1) 0 (c :: rest)).toOption.map fun value => -(value : Int)
  | _ => (unsigned limit text).toOption.map fun value => (value : Int)

end Numeral

end Reconciliation.Text
