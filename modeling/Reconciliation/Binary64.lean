/-! # Double precision arithmetic on exact integers

Every finite number of the binary64 format is a whole multiple of `2 ^ -1074`, its smallest positive
number, so it is kept as that multiple. An operation computes its exact result and rounds it once
with `Binary64.ofQuotient`: to the nearest number with at most 53 significant bits, a tie to the one
with the even last bit, and to an infinity beyond the largest finite number. The two zeros of the
format are one value here, since no operation below tells them apart.
-/

namespace Reconciliation

/-- A number of the binary64 format. -/
inductive Binary64
  | notANumber
  | infinity (negative : Bool)
  /-- The finite number `units * 2 ^ -1074`. -/
  | finite (units : Int)
deriving DecidableEq, Repr

namespace Binary64

/-- One is this many units. -/
def unit : Nat := Nat.pow 2 1074

/-- The first power of two beyond the finite numbers, in units. -/
def overflow : Nat := Nat.pow 2 2098

/-- The whole number nearest to `numerator / denominator`, the even one of two equally near ones. -/
def roundHalfEven (numerator denominator : Nat) : Nat :=
  let quotient := numerator / denominator
  let twice := 2 * (numerator % denominator)
  if twice < denominator then quotient
  else if denominator < twice then quotient + 1
  else if quotient % 2 = 0 then quotient else quotient + 1

/-- How many low bits of a number of `quotient` units are beyond its 53 significant ones. -/
def spareBits (quotient : Nat) : Nat := quotient.log2 - 52

/-- The number of units with at most 53 significant bits that is nearest to `numerator / denominator`. -/
def roundUnits (numerator denominator : Nat) : Nat :=
  let step := Nat.pow 2 (spareBits (numerator / denominator))
  roundHalfEven numerator (denominator * step) * step

/-- The number nearest to `numerator / denominator` units. -/
def ofQuotient (numerator : Int) (denominator : Nat) : Binary64 :=
  let units := roundUnits numerator.natAbs denominator
  if overflow ≤ units then infinity (numerator < 0)
  else finite (if numerator < 0 then -(units : Int) else units)

/-- The number nearest to the fraction `numerator / denominator`. -/
def ofFraction (numerator : Int) (denominator : Nat) : Binary64 :=
  ofQuotient (numerator * unit) denominator

def ofNat (value : Nat) : Binary64 := ofFraction value 1

/-- Whether a number is below zero. -/
def isNegative : Binary64 → Bool
  | notANumber => false
  | infinity negative => negative
  | finite units => units < 0

def neg : Binary64 → Binary64
  | notANumber => notANumber
  | infinity negative => infinity (!negative)
  | finite units => finite (-units)

/-- The magnitude of a number. -/
def abs : Binary64 → Binary64
  | notANumber => notANumber
  | infinity _ => infinity false
  | finite units => finite units.natAbs

/-- The sum, which is not a number if it adds opposite infinities. -/
def add : Binary64 → Binary64 → Binary64
  | notANumber, _ | _, notANumber => notANumber
  | infinity a, infinity b => if a = b then infinity a else notANumber
  | infinity a, finite _ => infinity a
  | finite _, infinity b => infinity b
  | finite a, finite b => ofQuotient (a + b) 1

def sub (a b : Binary64) : Binary64 := add a (neg b)

/-- The product, which is not a number if it multiplies zero and an infinity. -/
def mul : Binary64 → Binary64 → Binary64
  | notANumber, _ | _, notANumber => notANumber
  | finite a, finite b => ofQuotient (a * b) unit
  | a, b =>
      if a = finite 0 || b = finite 0 then notANumber
      else infinity (isNegative a != isNegative b)

/-- One divided by a number. -/
def reciprocal : Binary64 → Binary64
  | notANumber => notANumber
  | infinity _ => finite 0
  | finite units =>
      if units = 0 then infinity false
      else ofQuotient (if units < 0 then -(unit * unit : Nat) else (unit * unit : Nat)) units.natAbs

/-- Whether `a` is at most `b`; nothing is comparable with what is not a number. -/
def le : Binary64 → Binary64 → Bool
  | notANumber, _ | _, notANumber => false
  | infinity true, _ | _, infinity false => true
  | _, infinity true | infinity false, _ => false
  | finite a, finite b => a ≤ b

/-- The greater of two numbers; what is not a number gives way to the other. -/
def max (a b : Binary64) : Binary64 :=
  match a, b with
  | notANumber, _ => b
  | _, notANumber => a
  | _, _ => if le a b then b else a

/-- The binary digits of a number, the lowest first. -/
def bits (value : Nat) : List Bool := (List.range (value.log2 + 1)).map value.testBit

/-- Multiply `product` by the power of `base` whose exponent has the given binary digits: the base is
squared once for each digit. -/
def mulPow (product base : Binary64) : List Bool → Binary64
  | [] => product
  | digit :: rest => mulPow (if digit then mul product base else product) (mul base base) rest

/-- A power with a whole exponent; with a negative one it is one divided by the positive power. -/
def pow (base : Binary64) (exponent : Int) : Binary64 :=
  let power := mulPow (ofNat 1) base (bits exponent.natAbs)
  if exponent < 0 then reciprocal power else power

end Binary64

end Reconciliation
