import Reconciliation.Proofs.QuantityGrammar
import Reconciliation.Proofs.QuantityLaws
import Reconciliation.Proofs.Rounding

/-! # Quantities as exact numbers

A quantity denotes a fraction, the product of its number and its multiplier. The value that it is compared by has gone
through a few roundings: one of the number, one of the multiplier and one of the product, and as many more as the
exponent says where the multiplier is a power that is computed (`Quantity.Measures.near`). The comparison allows for
sixteen times the distance from one to the next number, so quantities that are taken for the same may differ, but by
no more than this and the roundings.
-/

namespace Reconciliation

namespace Binary64

/-- A product that is neither zero nor beyond the finite numbers has such factors. -/
theorem mul_eq_finite {a b : Binary64} {units : ℤ} (result : a.mul b = finite units) (nonzero : units ≠ 0) :
    ∃ x y : ℤ, a = finite x ∧ b = finite y ∧ x ≠ 0 ∧ y ≠ 0 ∧ ofQuotient (x * y) unit = finite units := by
  cases a with
  | notANumber => cases result
  | infinity negative =>
    cases b with
    | notANumber => cases result
    | _ =>
      simp only [mul] at result
      split at result <;> cases result
  | finite x =>
    cases b with
    | notANumber => cases result
    | infinity negative =>
      simp only [mul] at result
      split at result <;> cases result
    | finite y =>
      simp only [mul] at result
      have product : x * y ≠ 0 := by
        intro zero
        rw [zero, ofQuotient_zero] at result
        exact nonzero (finite.inj result).symm
      exact ⟨x, y, rfl, rfl, left_ne_zero_of_mul product, right_ne_zero_of_mul product, result⟩

end Binary64

open Binary64 (Near unit unit_pos)

namespace Decimal

/-- The fraction that a number denotes. -/
def fraction (number : Decimal) : ℚ :=
  ((if number.negative then -(number.coefficient : ℤ) else number.coefficient : ℤ) : ℚ) / 10 ^ number.places

theorem near_toBinary64 {number : Decimal} {units : ℤ} (result : number.toBinary64 = .finite units) :
    0 ≤ units * number.fraction ∧ Near 1 (1 / 2) |(units : ℚ)| (|number.fraction| * unit) := by
  have posPower : 0 < Nat.pow 10 number.places := Nat.pow_pos (by norm_num)
  have posUnit : (0 : ℚ) < unit := by exact_mod_cast unit_pos
  rw [toBinary64, Binary64.ofFraction] at result
  obtain ⟨sign, -, near⟩ := Binary64.near_of_ofQuotient posPower result
  unfold fraction
  generalize (if number.negative then -(number.coefficient : ℤ) else number.coefficient : ℤ) = numerator at *
  have power : ((Nat.pow 10 number.places : ℕ) : ℚ) = 10 ^ number.places := by exact_mod_cast rfl
  refine ⟨?_, ?_⟩
  · rw [← mul_assoc] at sign
    have whole : 0 ≤ units * numerator := nonneg_of_mul_nonneg_left sign (by exact_mod_cast unit_pos)
    rw [← mul_div_assoc]
    exact div_nonneg (by exact_mod_cast whole) (by positivity)
  · convert near using 1
    rw [power]
    push_cast
    rw [abs_div, abs_mul, abs_of_pos posUnit, abs_of_pos (by positivity : (0 : ℚ) < 10 ^ number.places)]
    ring

end Decimal

namespace Suffix

/-- The multiplier that a suffix stands for. -/
def fraction : Suffix → ℚ
  | .decimal exponent | .scientific exponent => 10 ^ exponent
  | .binary exponent => 2 ^ exponent

/-- How many roundings the multiplier of a suffix goes through. The quotient that a negative exponent ends with may be
so small that it is rounded as coarsely as by four of them. -/
def roundings : Suffix → ℕ
  | .decimal _ | .binary _ => 1
  | .scientific exponent => exponent.natAbs + if exponent < 0 then 4 else 0

/-- The exponents that can be written. -/
def IsBounded : Suffix → Prop
  | .decimal exponent => exponent.natAbs ≤ 18
  | .binary exponent => exponent ≤ 60
  | .scientific exponent => exponent.natAbs ≤ 2 ^ 31

instance : DecidablePred IsBounded
  | .decimal exponent => inferInstanceAs (Decidable (exponent.natAbs ≤ 18))
  | .binary exponent => inferInstanceAs (Decidable (exponent ≤ 60))
  | .scientific exponent => inferInstanceAs (Decidable (exponent.natAbs ≤ 2 ^ 31))

variable {suffix : Suffix}

theorem isBounded_of_spells {text : List Char} (spelled : Spells text suffix) : suffix.IsBounded := by
  cases spelled with
  | letters listed =>
    have each : ∀ entry ∈ letters, entry.2.IsBounded := by decide
    exact each _ listed
  | @exponent mark text exponent marked spelled least greatest =>
    change -2147483648 ≤ exponent at least
    change exponent ≤ 2147483647 at greatest
    change exponent.natAbs ≤ 2 ^ 31
    omega

theorem fraction_pos (suffix : Suffix) : 0 < suffix.fraction := by
  cases suffix with
  | decimal exponent | scientific exponent => exact zpow_pos (by norm_num) exponent
  | binary exponent => exact pow_pos (by norm_num) exponent

theorem roundings_le (bounded : suffix.IsBounded) : suffix.roundings ≤ 2 ^ 32 := by
  cases suffix with
  | decimal exponent | binary exponent => norm_num [roundings]
  | scientific exponent =>
    simp only [IsBounded, roundings] at bounded ⊢
    split <;> omega

/-- A multiplier that takes few roundings is not great. -/
theorem fraction_le (bounded : suffix.IsBounded) (few : suffix.roundings ≤ 8) : suffix.fraction ≤ 2 ^ 60 := by
  have power {exponent : ℤ} (most : exponent ≤ 18) : (10 : ℚ) ^ exponent ≤ 2 ^ 60 :=
    (zpow_le_zpow_right₀ (by norm_num) most).trans (by norm_num)
  cases suffix with
  | decimal exponent =>
    simp only [IsBounded] at bounded
    exact power (by omega)
  | binary exponent => exact pow_le_pow_right₀ one_le_two bounded
  | scientific exponent =>
    simp only [roundings] at few
    exact power (by omega)

/-- A multiplier that is neither beyond the numbers of the format nor below them. -/
theorem near_toBinary64 {units : ℤ} (bounded : suffix.IsBounded) (result : suffix.toBinary64 = .finite units)
    (nonzero : units ≠ 0) :
    ∃ magnitude : ℕ, units = magnitude ∧ Near suffix.roundings 0 magnitude (suffix.fraction * unit) := by
  cases suffix with
  | scientific exponent => exact Binary64.near_pow_ten result nonzero
  | binary exponent =>
    obtain ⟨magnitude, same, near⟩ := Binary64.near_ofNat result
    rw [Nat.pow_eq, Nat.cast_pow, Nat.cast_ofNat] at near
    exact ⟨magnitude, same, near⟩
  | decimal exponent =>
    simp only [toBinary64, Nat.pow_eq] at result
    simp only [IsBounded] at bounded
    simp only [roundings, fraction]
    split_ifs at result with negative
    · obtain ⟨exponent, rfl⟩ := Int.exists_eq_neg_ofNat negative.le
      rw [Int.natAbs_neg, Int.natAbs_natCast] at result bounded
      have small : 10 ^ exponent ≤ 2 ^ 64 := (Nat.pow_le_pow_right (by norm_num) bounded).trans (by norm_num)
      have near := Binary64.near_ofFraction_one (by positivity) small result
      rwa [Nat.cast_pow, Nat.cast_ofNat, ← zpow_natCast, ← zpow_neg] at near
    · obtain ⟨exponent, rfl⟩ := Int.eq_ofNat_of_zero_le (Int.not_lt.mp negative)
      have near := Binary64.near_ofNat result
      rwa [Int.natAbs_natCast, Nat.cast_pow, Nat.cast_ofNat, ← zpow_natCast] at near

end Suffix

namespace Quantity

variable {quantity : Quantity} {units : ℤ}

/-- The fraction that a quantity denotes. -/
def fraction (quantity : Quantity) : ℚ := quantity.number.fraction * quantity.suffix.fraction

/-- How many roundings the value of a quantity goes through. -/
def roundings (quantity : Quantity) : ℕ := quantity.suffix.roundings + 2

theorem two_le_roundings (quantity : Quantity) : 2 ≤ quantity.roundings := Nat.le_add_left _ _

theorem roundings_le (bounded : quantity.suffix.IsBounded) : quantity.roundings ≤ 2 ^ 33 := by
  have := Suffix.roundings_le bounded
  rw [roundings]
  omega

/-- The value of a quantity that can be written, if it is neither zero nor beyond the finite numbers. -/
structure Measures (quantity : Quantity) (units : ℤ) : Prop where
  bounded : quantity.suffix.IsBounded
  value : quantity.value = .finite units
  nonzero : units ≠ 0

/-- The value of a quantity has its sign, and is as many roundings away from it as its suffix says. -/
theorem Measures.near (measures : Measures quantity units) :
    0 ≤ units * quantity.fraction ∧ units.natAbs < Binary64.overflow ∧
      Near quantity.roundings (quantity.suffix.fraction + 1) |(units : ℚ)| (|quantity.fraction| * unit) := by
  obtain ⟨bounded, value, nonzero⟩ := measures
  obtain ⟨x, y, first, second, nonzeroX, nonzeroY, product⟩ := Binary64.mul_eq_finite value nonzero
  obtain ⟨signX, nearX⟩ := Decimal.near_toBinary64 first
  obtain ⟨y, rfl, nearY⟩ := Suffix.near_toBinary64 bounded second nonzeroY
  obtain ⟨sign, room, near⟩ := Binary64.near_of_ofQuotient unit_pos product
  have posUnit : (0 : ℚ) < unit := by exact_mod_cast unit_pos
  have posY : (0 : ℚ) < y := by exact_mod_cast Nat.pos_of_ne_zero (by simpa using nonzeroY)
  have posFactor := Suffix.fraction_pos quantity.suffix
  refine ⟨?_, room, ?_⟩
  · have signs : (0 : ℚ) ≤ units * x := by
      rw [← mul_assoc] at sign
      exact_mod_cast nonneg_of_mul_nonneg_left sign (by exact_mod_cast posY)
    have square : (0 : ℚ) < x * x := mul_self_pos.mpr (by exact_mod_cast nonzeroX)
    have squared : 0 ≤ units * quantity.number.fraction * (x * x : ℚ) :=
      (mul_nonneg signs signX).trans_eq (by ring)
    rw [fraction, ← mul_assoc]
    exact mul_nonneg (nonneg_of_mul_nonneg_left squared square) posFactor.le
  · have few : 1 + quantity.suffix.roundings ≤ 2 ^ 51 := by
      have := Suffix.roundings_le bounded
      omega
    have magnitude : |((x * y : ℤ) : ℚ)| = |(x : ℚ)| * y := by
      push_cast
      rw [abs_mul, abs_of_pos posY]
    rw [magnitude] at near
    rw [fraction, abs_mul, abs_of_pos posFactor]
    exact Near.rounded_product near nearX nearY posUnit (abs_nonneg _) (abs_nonneg _) posFactor (abs_nonneg _) few

/-- What the tolerance for two values comes to, of which the greater one is given. -/
theorem near_tolerance {greater : ℕ} (room : greater < Binary64.overflow) :
    ∃ allowed : ℕ, tolerance.mul (.finite greater) = .finite allowed ∧ allowed < Binary64.overflow ∧
      Near 1 (1 / 2) allowed ((greater : ℚ) / 2 ^ 48) := by
  obtain ⟨tolerated, finitely, whole⟩ := tolerance_eq
  rw [Nat.pow_eq] at whole
  let allowed := Binary64.roundUnits (tolerated * greater) unit
  have near : Near 1 (1 / 2) allowed ((greater : ℚ) / 2 ^ 48) := by
    have scaled : ((tolerated * greater : ℕ) : ℚ) / unit = greater / 2 ^ 48 := by
      have nonzero : tolerated ≠ 0 := left_ne_zero_of_mul (whole.trans_ne unit_pos.ne')
      rw [← whole, Nat.cast_mul, Nat.cast_mul, mul_div_mul_left _ _ (Nat.cast_ne_zero.mpr nonzero), Nat.cast_pow,
        Nat.cast_ofNat]
    exact scaled ▸ Binary64.near_roundUnits (n := tolerated * greater) unit_pos
  have less : allowed < Binary64.overflow := by
    have least : (greater : ℚ) + 1 ≤ Binary64.overflow := by exact_mod_cast room
    have small : (allowed : ℚ) < Binary64.overflow := by
      have bound := near.le_right
      norm_num [Binary64.growth] at bound
      linarith
    exact_mod_cast small
  refine ⟨allowed, ?_, less, near⟩
  rw [finitely, Binary64.mul, ← Nat.cast_mul, Binary64.ofQuotient_natCast, if_neg (Nat.not_le_of_lt less)]

/-- A quantity with few roundings has no great multiplier. -/
theorem Measures.fraction_le (measures : Measures quantity units) (few : quantity.roundings ≤ 10) :
    quantity.suffix.fraction ≤ 2 ^ 60 :=
  Suffix.fraction_le measures.bounded (Nat.le_of_add_le_add_right few)

/-- Two values are compared by their rounded distance and the rounded tolerance. -/
theorem close_iff {x y : ℤ} (roomX : x.natAbs < Binary64.overflow) (roomY : y.natAbs < Binary64.overflow) :
    ∃ distance allowed : ℕ, (close (.finite x) (.finite y) = true ↔ distance ≤ allowed) ∧
      Near 1 0 distance |(x - y : ℚ)| ∧ Near 1 (1 / 2) allowed (max |(x : ℚ)| |(y : ℚ)| / 2 ^ 48) := by
  obtain ⟨allowed, tolerated, room, nearAllowed⟩ := near_tolerance (Nat.max_lt.mpr ⟨roomX, roomY⟩)
  have nearDistance := Binary64.near_roundUnits_one (x - y).natAbs
  rw [Nat.cast_max, Nat.cast_natAbs, Nat.cast_natAbs, Int.cast_abs, Int.cast_abs] at nearAllowed
  rw [Nat.cast_natAbs, Int.cast_abs, Int.cast_sub] at nearDistance
  refine ⟨_, allowed, ?_, nearDistance, nearAllowed⟩
  rw [close, Binary64.sub, Binary64.neg, Binary64.add, ← Int.sub_eq_add_neg, Binary64.abs_ofQuotient,
    Binary64.ofQuotient_natCast, Binary64.max_abs, tolerated]
  split_ifs with exceeds
  · exact iff_of_false Bool.false_ne_true (Nat.not_le_of_lt (room.trans_le exceeds))
  · simp only [Binary64.le, decide_eq_true_eq, Nat.cast_le]

/-- How far the value of a quantity is from the quantity, in units. -/
theorem Measures.abs_sub_le (measures : Measures quantity units) :
    |(units : ℚ) - quantity.fraction * unit| ≤
      3 / 4 * (quantity.roundings / 2 ^ 52) * |quantity.fraction * unit| + (quantity.suffix.fraction + 1) := by
  obtain ⟨sign, -, near⟩ := measures.near
  have posUnit : (0 : ℚ) < unit := by exact_mod_cast unit_pos
  have posFactor := Suffix.fraction_pos quantity.suffix
  rw [← abs_of_pos posUnit, ← abs_mul] at near
  refine near.abs_sub_le ?_ (by linarith) ((roundings_le measures.bounded).trans (by norm_num))
  rw [← mul_assoc]
  exact mul_nonneg sign posUnit.le

section Distances

variable {x y a b k l s t : ℚ}

/-- Two numbers that are not far from two close ones are not far from each other. -/
theorem abs_sub_le_of_close (nearX : |x - a| ≤ 3 / 4 * k * |a| + s) (nearY : |y - b| ≤ 3 / 4 * l * |b| + t)
    (close : |x - y| ≤ (max |x| |y| / 2 ^ 48 * Binary64.growth + 1 / 2) * Binary64.growth)
    (leastK : 2 / 2 ^ 52 ≤ k) (leastL : 2 / 2 ^ 52 ≤ l) (leastS : 1 ≤ s) (leastT : 1 ≤ t) :
    |a - b| ≤ (16 / 2 ^ 52 + (k + l)) * max |a| |b| + 2 * (s + t) := by
  have triangle : |a - b| ≤ |x - a| + |x - y| + |y - b| := by
    have first := abs_sub_le a x b
    have second := abs_sub_le x y b
    rw [abs_sub_comm a x] at first
    linarith
  have nonneg : 0 ≤ max |a| |b| := (abs_nonneg a).trans (le_max_left ..)
  have partA : k * |a| ≤ k * max |a| |b| := mul_le_mul_of_nonneg_left (le_max_left ..) (by linarith)
  have partB : l * |b| ≤ l * max |a| |b| := mul_le_mul_of_nonneg_left (le_max_right ..) (by linarith)
  have least : 4 / 2 ^ 52 * max |a| |b| ≤ k * max |a| |b| + l * max |a| |b| := by
    rw [← add_mul]
    exact mul_le_mul_of_nonneg_right (by linarith) nonneg
  have greater : max |x| |y| ≤ max |a| |b| + 3 / 4 * (k * max |a| |b| + l * max |a| |b|) + (s + t) := by
    have stepK : 0 ≤ k * max |a| |b| := mul_nonneg (by linarith) nonneg
    have stepL : 0 ≤ l * max |a| |b| := mul_nonneg (by linarith) nonneg
    refine max_le ?_ ?_
    · linarith [abs_sub_abs_le_abs_sub x a, le_max_left |a| |b|]
    · linarith [abs_sub_abs_le_abs_sub y b, le_max_right |a| |b|]
  -- What the roundings of the comparison itself add is less than a quarter of one rounding of either value.
  norm_num [Binary64.growth] at close ⊢
  norm_num at least
  linarith

/-- The values of one number are close if they are near enough to it. -/
theorem le_of_abs_sub_le {distance allowed : ℚ} (nearX : |x - a| ≤ 3 / 4 * k * |a| + s)
    (nearY : |y - a| ≤ 3 / 4 * l * |a| + t) (few : k + l ≤ 12 / 2 ^ 52) (nonnegL : 0 ≤ l)
    (slack : s + t ≤ 2 ^ 62) (nonnegT : 0 ≤ t) (large : 2 ^ 174 ≤ |a|) (most : distance ≤ |x - y| * Binary64.growth)
    (least : max |x| |y| / 2 ^ 48 ≤ allowed * Binary64.growth + 1 / 2) : distance ≤ allowed := by
  have triangle := abs_sub_le x a y
  rw [abs_sub_comm a y] at triangle
  have greater : |a| - |x - a| ≤ max |x| |y| := by
    have part := abs_sub_abs_le_abs_sub a x
    rw [abs_sub_comm a x] at part
    linarith [le_max_left |x| |y|]
  have steps : k * |a| + l * |a| ≤ 12 / 2 ^ 52 * |a| := by
    rw [← add_mul]
    exact mul_le_mul_of_nonneg_right few (abs_nonneg a)
  have stepL : 0 ≤ l * |a| := mul_nonneg nonnegL (abs_nonneg a)
  norm_num [Binary64.growth] at most least
  linarith

end Distances

section Comparison

variable {p q : Quantity} {x y : ℤ}

theorem div_mul_unit (c : ℚ) : c / 2 ^ 1072 * unit = 4 * c := by
  have factors : unit = 4 * 2 ^ 1072 := by decide +kernel
  rw [factors, Nat.cast_mul, Nat.cast_pow, Nat.cast_ofNat, Nat.cast_ofNat, mul_left_comm,
    div_mul_cancel₀ _ (pow_ne_zero _ two_ne_zero)]

theorem one_div_mul_unit : (1 : ℚ) / 2 ^ 900 * unit = 2 ^ 174 := by
  have factors : unit = 2 ^ 900 * 2 ^ 174 := by decide +kernel
  rw [factors, Nat.cast_mul, Nat.cast_pow, Nat.cast_pow, Nat.cast_ofNat, ← mul_assoc,
    one_div_mul_cancel (pow_ne_zero _ two_ne_zero), one_mul]

theorem div_two_pow_le {c step : ℚ} (bound : c ≤ 2 ^ 62) (least : 1 / 2 ^ 900 ≤ step) :
    c / 2 ^ 1072 ≤ step / 2 ^ 64 := by
  have split : (2 : ℚ) ^ 1072 = 2 ^ 172 * 2 ^ 900 := pow_add 2 172 900
  calc
    c / 2 ^ 1072 = c / 2 ^ 172 * (1 / 2 ^ 900) := by rw [split, ← div_div, div_eq_mul_one_div (c / 2 ^ 172)]
    _ ≤ 1 / 2 ^ 64 * step := by
      refine mul_le_mul ?_ least (by positivity) (by positivity)
      rw [div_le_iff₀ (by positivity)]
      exact bound.trans (by norm_num)
    _ = step / 2 ^ 64 := one_div_mul_eq_div _ _

/-- Quantities that are taken for the same differ by no more than the tolerance and the roundings. -/
theorem distance_of_close (first : Measures p x) (second : Measures q y) (same : close p.value q.value = true) :
    |p.fraction - q.fraction| ≤ (16 + p.roundings + q.roundings) / 2 ^ 52 * max |p.fraction| |q.fraction| +
      (1 + p.suffix.fraction + q.suffix.fraction) / 2 ^ 1072 := by
  have posUnit : (0 : ℚ) < unit := by exact_mod_cast unit_pos
  have posP := Suffix.fraction_pos p.suffix
  have posQ := Suffix.fraction_pos q.suffix
  obtain ⟨-, roomX, -⟩ := first.near
  obtain ⟨-, roomY, -⟩ := second.near
  obtain ⟨distance, allowed, compared, nearDistance, nearAllowed⟩ := close_iff roomX roomY
  rw [first.value, second.value, compared] at same
  have apart : |(x - y : ℚ)| ≤ (max |(x : ℚ)| |(y : ℚ)| / 2 ^ 48 * Binary64.growth + 1 / 2) * Binary64.growth := by
    have least := nearDistance.le_left
    have most := nearAllowed.le_right
    rw [pow_one] at least most
    have sameQ : (distance : ℚ) ≤ allowed := by exact_mod_cast same
    have grown := mul_le_mul_of_nonneg_right (sameQ.trans most) Binary64.growth_pos.le
    linarith
  have steps (quantity : Quantity) : 2 / 2 ^ 52 ≤ (quantity.roundings : ℚ) / 2 ^ 52 := by
    have least : ((2 : ℕ) : ℚ) ≤ quantity.roundings := Nat.cast_le.mpr quantity.two_le_roundings
    exact div_le_div_of_nonneg_right least (by positivity)
  have scaled := abs_sub_le_of_close first.abs_sub_le second.abs_sub_le apart (steps p) (steps q) (by linarith)
    (by linarith)
  rw [← sub_mul, abs_mul, abs_mul, abs_mul, abs_of_pos posUnit, ← max_mul_of_nonneg _ _ posUnit.le] at scaled
  refine le_of_mul_le_mul_right (scaled.trans ?_) posUnit
  rw [add_mul _ _ (unit : ℚ), div_mul_unit]
  linarith

/-- Whole multiples of one number, of less than 47 bits, are told apart. -/
theorem fraction_eq_of_close (first : Measures p x) (second : Measures q y) (few : p.roundings + q.roundings ≤ 12)
    {step : ℚ} {m n : ℤ} (least : 1 / 2 ^ 900 ≤ step) (fractionP : p.fraction = m * step)
    (fractionQ : q.fraction = n * step) (smallP : |m| < 2 ^ 47) (smallQ : |n| < 2 ^ 47)
    (same : close p.value q.value = true) : p.fraction = q.fraction := by
  by_contra differ
  have bound := distance_of_close first second same
  have positive : 0 < step := lt_of_lt_of_le (by positivity) least
  have apart : step ≤ |p.fraction - q.fraction| := by
    have distinct : m ≠ n := fun equal => differ (by rw [fractionP, fractionQ, equal])
    have whole : 1 ≤ |m - n| := Int.one_le_abs (sub_ne_zero.mpr distinct)
    have wholeQ : (1 : ℚ) ≤ |(m : ℚ) - n| := by exact_mod_cast whole
    rw [fractionP, fractionQ, ← sub_mul, abs_mul, abs_of_pos positive]
    exact le_mul_of_one_le_left positive.le wholeQ
  have greatest : max |p.fraction| |q.fraction| ≤ 2 ^ 47 * step := by
    have each {value : ℤ} (small : |value| < 2 ^ 47) : |(value : ℚ) * step| ≤ 2 ^ 47 * step := by
      rw [abs_mul, abs_of_pos positive]
      exact mul_le_mul_of_nonneg_right (by exact_mod_cast small.le) positive.le
    rw [fractionP, fractionQ]
    exact max_le (each smallP) (each smallQ)
  have fewQ : (p.roundings : ℚ) + q.roundings ≤ 12 := by exact_mod_cast few
  have tolerance : (16 + p.roundings + q.roundings) / 2 ^ 52 * max |p.fraction| |q.fraction| ≤
      28 / 2 ^ 52 * (2 ^ 47 * step) := by
    gcongr
    linarith
  have slack : (1 + p.suffix.fraction + q.suffix.fraction) / 2 ^ 1072 ≤ step / 2 ^ 64 := by
    have boundP := first.fraction_le (by have := q.two_le_roundings; omega)
    have boundQ := second.fraction_le (by have := p.two_le_roundings; omega)
    exact div_two_pow_le (by linarith) least
  have total := apart.trans (bound.trans (add_le_add tolerance slack))
  linarith only [total, positive]

/-- The same fraction written in two ways is found to be the same. -/
theorem close_of_fraction_eq (first : Measures p x) (second : Measures q y) (few : p.roundings + q.roundings ≤ 12)
    (least : 1 / 2 ^ 900 ≤ |p.fraction|) (equal : p.fraction = q.fraction) : close p.value q.value = true := by
  obtain ⟨-, roomX, -⟩ := first.near
  obtain ⟨-, roomY, -⟩ := second.near
  obtain ⟨distance, allowed, compared, nearDistance, nearAllowed⟩ := close_iff roomX roomY
  rw [first.value, second.value, compared]
  have most := nearDistance.le_right
  have allows := nearAllowed.le_left
  rw [pow_one] at most allows
  rw [add_zero] at most
  have nearX := first.abs_sub_le
  have nearY := second.abs_sub_le
  rw [← equal] at nearY
  have fewer : (p.roundings : ℚ) / 2 ^ 52 + q.roundings / 2 ^ 52 ≤ 12 / 2 ^ 52 := by
    rw [← add_div]
    exact div_le_div_of_nonneg_right (by exact_mod_cast few) (by norm_num)
  have boundP := first.fraction_le (by have := q.two_le_roundings; omega)
  have boundQ := second.fraction_le (by have := p.two_le_roundings; omega)
  have positive := Suffix.fraction_pos q.suffix
  have large : 2 ^ 174 ≤ |p.fraction * unit| := by
    have posUnit : (0 : ℚ) < unit := by exact_mod_cast unit_pos
    rw [abs_mul, abs_of_pos posUnit, ← one_div_mul_unit]
    exact mul_le_mul_of_nonneg_right least posUnit.le
  have bound : (distance : ℚ) ≤ allowed :=
    le_of_abs_sub_le nearX nearY fewer (div_nonneg (Nat.cast_nonneg _) (by norm_num)) (by linarith) (by linarith) large
      most allows
  exact_mod_cast bound

theorem measures_of_read? {text : String} (read : read? text = some p) (value : p.value = .finite x)
    (nonzero : x ≠ 0) : Measures p x := by
  obtain ⟨before, number, suffix, after, -, -, -, -, spelled⟩ := read?_eq_some_iff.mp read
  exact ⟨Suffix.isBounded_of_spells spelled, value, nonzero⟩

theorem same_eq_close {a b : String} (readA : read? a = some p) (readB : read? b = some q) :
    same a b = close p.value q.value := by
  simp only [same, value?, readA, readB, Option.map_some]

/-- Two texts that are taken for the same quantity, neither of them zero nor beyond the finite numbers, denote fractions
that differ by no more than sixteen last places and the roundings, or a few of the smallest numbers of the format. Where
there are few roundings, whole multiples of one number that have less than 47 bits are told apart, and the same fraction
is found to be the same. -/
theorem same_within_tolerance {a b : String} (readA : read? a = some p) (readB : read? b = some q)
    (valueA : p.value = .finite x) (valueB : q.value = .finite y) (nonzeroA : x ≠ 0) (nonzeroB : y ≠ 0) :
    (same a b = true →
        |p.fraction - q.fraction| ≤ (16 + p.roundings + q.roundings) / 2 ^ 52 * max |p.fraction| |q.fraction| +
          (1 + p.suffix.fraction + q.suffix.fraction) / 2 ^ 1072) ∧
      (p.roundings + q.roundings ≤ 12 →
        (∀ (step : ℚ) (m n : ℤ), 1 / 2 ^ 900 ≤ step → p.fraction = m * step → q.fraction = n * step →
          |m| < 2 ^ 47 → |n| < 2 ^ 47 → same a b = true → p.fraction = q.fraction) ∧
        (1 / 2 ^ 900 ≤ |p.fraction| → p.fraction = q.fraction → same a b = true)) := by
  have first := measures_of_read? readA valueA nonzeroA
  have second := measures_of_read? readB valueB nonzeroB
  rw [same_eq_close readA readB]
  refine ⟨distance_of_close first second, fun few => ⟨?_, close_of_fraction_eq first second few⟩⟩
  intro step m n least fractionP fractionQ smallP smallQ same
  exact fraction_eq_of_close first second few least fractionP fractionQ smallP smallQ same

/-- A gibibyte is as much as 1024 mebibytes, and not as much as 1025. -/
theorem same_within_tolerance_of_bytes : same "1Gi" "1024Mi" = true ∧ same "1Gi" "1025Mi" = false := by
  let gibi : Quantity := ⟨⟨false, [1], 0⟩, .binary 30⟩
  let mebi : Quantity := ⟨⟨false, [1, 0, 2, 4], 0⟩, .binary 20⟩
  let more : Quantity := ⟨⟨false, [1, 0, 2, 5], 0⟩, .binary 20⟩
  have fractionGibi : gibi.fraction = (2 ^ 30 : ℤ) * 1 := by
    norm_num [gibi, fraction, Decimal.fraction, Decimal.coefficient, Suffix.fraction]
  have fractionMebi : mebi.fraction = (2 ^ 30 : ℤ) * 1 := by
    norm_num [mebi, fraction, Decimal.fraction, Decimal.coefficient, Suffix.fraction]
  have fractionMore : more.fraction = (1025 * 2 ^ 20 : ℤ) * 1 := by
    norm_num [more, fraction, Decimal.fraction, Decimal.coefficient, Suffix.fraction]
  have valueGibi : gibi.value = .finite (2 ^ 30 * unit : ℕ) := by decide +kernel
  have valueMebi : mebi.value = .finite (2 ^ 30 * unit : ℕ) := by decide +kernel
  have valueMore : more.value = .finite (1025 * 2 ^ 20 * unit : ℕ) := by decide +kernel
  have nonzero : ((2 ^ 30 * unit : ℕ) : ℤ) ≠ 0 := by decide +kernel
  have nonzeroMore : ((1025 * 2 ^ 20 * unit : ℕ) : ℤ) ≠ 0 := by decide +kernel
  have tiny : (1 : ℚ) / 2 ^ 900 ≤ 1 := div_le_self zero_le_one (one_le_pow₀ one_le_two)
  constructor
  · have compared := same_within_tolerance (a := "1Gi") (b := "1024Mi") (by decide) (by decide) valueGibi valueMebi
      nonzero nonzero
    refine (compared.2 (by decide)).2 (tiny.trans ?_) (fractionGibi.trans fractionMebi.symm)
    norm_num [fractionGibi]
  · have compared := same_within_tolerance (a := "1Gi") (b := "1025Mi") (by decide) (by decide) valueGibi valueMore
      nonzero nonzeroMore
    refine Bool.eq_false_iff.mpr fun same => ?_
    have equal := (compared.2 (by decide)).1 1 _ _ tiny fractionGibi fractionMore (by norm_num) (by norm_num) same
    norm_num [fractionGibi, fractionMore] at equal

/-- A thousand million million and one more than that are taken for the same, as the tolerance is more than three there. -/
theorem same_of_distinct :
    ¬ ∀ (a b : String) (p q : Quantity) (x y : ℤ), read? a = some p → read? b = some q → p.value = .finite x →
      q.value = .finite y → x ≠ 0 → y ≠ 0 → same a b = true → p.fraction = q.fraction := by
  let even : Quantity := ⟨⟨false, [1, 0, 0, 0, 0, 0, 0, 0, 0, 0, 0, 0, 0, 0, 0, 0], 0⟩, .decimal 0⟩
  let odd : Quantity := ⟨⟨false, [1, 0, 0, 0, 0, 0, 0, 0, 0, 0, 0, 0, 0, 0, 0, 1], 0⟩, .decimal 0⟩
  intro equal
  have exactly := equal "1000000000000000" "1000000000000001" even odd (10 ^ 15 * unit : ℕ) ((10 ^ 15 + 1) * unit : ℕ)
    (by decide) (by decide) (by decide +kernel) (by decide +kernel) (by decide +kernel) (by decide +kernel)
    (by decide +kernel)
  norm_num [even, odd, fraction, Decimal.fraction, Decimal.coefficient, Suffix.fraction] at exactly

end Comparison

end Quantity

end Reconciliation
