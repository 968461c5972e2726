import Mathlib.Algebra.Order.Ring.Pow
import Mathlib.Data.Nat.Cast.Order.Field
import Mathlib.Data.Nat.Digits.Lemmas
import Mathlib.Data.Rat.Cast.Order
import Mathlib.Tactic.FieldSimp
import Mathlib.Tactic.GCongr
import Mathlib.Tactic.Linarith
import Mathlib.Tactic.NormNum
import Mathlib.Tactic.Positivity
import Mathlib.Tactic.Ring
import Reconciliation.Binary64

/-! # What rounding does to a number

A number of at least `2 ^ 52` units is changed by one part in `2 ^ 53` at most when it is rounded, and a smaller one by
half a unit at most. How far the result of a computation is from the exact one is therefore told by how many roundings
it has gone through and by a slack (`Binary64.Near`): roundings add up over products and quotients.

A power is computed by squaring. Each squaring doubles the roundings and adds one, so that a power of a base that is
exact has gone through as many roundings as its exponent says (`reaches_mulPow`). Powers of numbers from one on do not
get small, and have no slack.
-/

namespace Reconciliation

namespace Binary64

section Near

/-- What one rounding multiplies a number with at most. -/
def growth : ℚ := 1 + 1 / 2 ^ 53

theorem one_le_growth : 1 ≤ growth := by norm_num [growth]

theorem growth_pos : 0 < growth := zero_lt_one.trans_le one_le_growth

theorem one_le_growth_pow (steps : ℕ) : 1 ≤ growth ^ steps := one_le_pow₀ one_le_growth

theorem growth_pow_pos (steps : ℕ) : 0 < growth ^ steps := pow_pos growth_pos steps

/-- As long as they are not too many, roundings grow a number by a little more than one part in `2 ^ 53` each. -/
theorem growth_pow_le {steps : ℕ} (few : steps ≤ 2 ^ 51) : growth ^ steps ≤ 1 + 3 / 4 * (steps / 2 ^ 52) := by
  have bound : (steps : ℚ) ≤ 2 ^ 51 := by exact_mod_cast few
  have shrinks : growth * (1 + -(1 / 2 ^ 53)) ≤ 1 := by norm_num [growth]
  have least : 1 + (steps : ℚ) * -(1 / 2 ^ 53) ≤ (1 + -(1 / 2 ^ 53)) ^ steps :=
    one_add_mul_le_pow (by norm_num) steps
  have cancels : growth ^ steps * (1 + -(1 / 2 ^ 53)) ^ steps ≤ 1 := by
    rw [← mul_pow]
    exact pow_le_one₀ (mul_nonneg growth_pos.le (by norm_num)) shrinks
  have product : growth ^ steps * (1 + (steps : ℚ) * -(1 / 2 ^ 53)) ≤ 1 :=
    (mul_le_mul_of_nonneg_left least (growth_pow_pos steps).le).trans cancels
  have room : 1 ≤ (1 + 3 / 4 * ((steps : ℚ) / 2 ^ 52)) * (1 + (steps : ℚ) * -(1 / 2 ^ 53)) := by
    nlinarith [(Nat.cast_nonneg steps : (0 : ℚ) ≤ steps)]
  exact le_of_mul_le_mul_right (product.trans room) (by linarith)

/-- Two magnitudes are the same up to a number of roundings and a slack. -/
structure Near (steps : ℕ) (slack a b : ℚ) : Prop where
  le_right : a ≤ b * growth ^ steps + slack
  le_left : b ≤ a * growth ^ steps + slack

namespace Near

variable {k l : ℕ} {s t a b c d : ℚ}

theorem refl (a : ℚ) : Near 0 0 a a := ⟨by simp, by simp⟩

theorem mono (near : Near k s a b) (nonnegA : 0 ≤ a) (nonnegB : 0 ≤ b) (steps : k ≤ l) (slack : s ≤ t) :
    Near l t a b := by
  have more : growth ^ k ≤ growth ^ l := pow_le_pow_right₀ one_le_growth steps
  exact ⟨near.le_right.trans (add_le_add (mul_le_mul_of_nonneg_left more nonnegB) slack),
    near.le_left.trans (add_le_add (mul_le_mul_of_nonneg_left more nonnegA) slack)⟩

theorem trans (first : Near k s a b) (second : Near l t b c) (slackA : 0 ≤ s) (slackB : 0 ≤ t) :
    Near (k + l) (s * growth ^ l + t * growth ^ k) a c where
  le_right := calc
    a ≤ b * growth ^ k + s := first.le_right
    _ ≤ (c * growth ^ l + t) * growth ^ k + s * growth ^ l :=
      add_le_add (mul_le_mul_of_nonneg_right second.le_right (growth_pow_pos k).le)
        (le_mul_of_one_le_right slackA (one_le_growth_pow l))
    _ = c * growth ^ (k + l) + (s * growth ^ l + t * growth ^ k) := by ring
  le_left := calc
    c ≤ b * growth ^ l + t := second.le_left
    _ ≤ (a * growth ^ k + s) * growth ^ l + t * growth ^ k :=
      add_le_add (mul_le_mul_of_nonneg_right first.le_left (growth_pow_pos l).le)
        (le_mul_of_one_le_right slackB (one_le_growth_pow k))
    _ = a * growth ^ (k + l) + (s * growth ^ l + t * growth ^ k) := by ring

/-- Roundings without slack add up. -/
theorem add (first : Near k 0 a b) (second : Near l 0 b c) : Near (k + l) 0 a c := by
  simpa using first.trans second le_rfl le_rfl

theorem scale (near : Near k s a b) (nonneg : 0 ≤ c) : Near k (s * c) (a * c) (b * c) where
  le_right := (mul_le_mul_of_nonneg_right near.le_right nonneg).trans_eq (by ring)
  le_left := (mul_le_mul_of_nonneg_right near.le_left nonneg).trans_eq (by ring)

/-- A product has gone through the roundings of its factors. -/
theorem mul (first : Near k s a b) (second : Near l 0 c d) (slack : 0 ≤ s) (nonnegA : 0 ≤ a) (nonnegD : 0 ≤ d) :
    Near (k + l) (s * d * growth ^ l) (a * c) (b * d) where
  le_right := calc
    a * c ≤ a * (d * growth ^ l) := mul_le_mul_of_nonneg_left (by simpa using second.le_right) nonnegA
    _ ≤ (b * growth ^ k + s) * (d * growth ^ l) :=
      mul_le_mul_of_nonneg_right first.le_right (mul_nonneg nonnegD (growth_pow_pos l).le)
    _ = b * d * growth ^ (k + l) + s * d * growth ^ l := by ring
  le_left := calc
    b * d ≤ (a * growth ^ k + s) * d := mul_le_mul_of_nonneg_right first.le_left nonnegD
    _ = a * growth ^ k * d + s * d := by ring
    _ ≤ a * growth ^ k * (c * growth ^ l) + s * d * growth ^ l :=
      add_le_add (mul_le_mul_of_nonneg_left (by simpa using second.le_left) (mul_nonneg nonnegA (growth_pow_pos k).le))
        (le_mul_of_one_le_right (mul_nonneg slack nonnegD) (one_le_growth_pow l))
    _ = a * c * growth ^ (k + l) + s * d * growth ^ l := by ring

theorem inv (near : Near k 0 a b) (posA : 0 < a) (posB : 0 < b) : Near k 0 a⁻¹ b⁻¹ := by
  have flip {x y : ℚ} (posX : 0 < x) (posY : 0 < y) (bound : y ≤ x * growth ^ k + 0) :
      x⁻¹ ≤ y⁻¹ * growth ^ k + 0 := by
    rw [add_zero] at bound ⊢
    rw [inv_mul_eq_div, le_div_iff₀ posY, inv_mul_le_iff₀ posX]
    exact bound
  exact ⟨flip posA posB near.le_left, flip posB posA near.le_right⟩

/-- Numbers that are no more than `k` parts in `2 ^ 53` of a lower bound apart are `k` roundings apart. -/
theorem of_abs_sub_le (least : ℚ) (apart : |a - b| ≤ k * least / 2 ^ 53) (leastA : least ≤ a) (leastB : least ≤ b)
    (nonneg : 0 ≤ least) : Near k 0 a b := by
  have grows : 1 + (k : ℚ) * (1 / 2 ^ 53) ≤ growth ^ k := one_add_mul_le_pow (by norm_num) k
  have bound {x y : ℚ} (apart : x - y ≤ k * least / 2 ^ 53) (leastY : least ≤ y) : x ≤ y * growth ^ k + 0 := by
    have part : (k : ℚ) * least / 2 ^ 53 ≤ y * (k * (1 / 2 ^ 53)) := by
      nlinarith [(Nat.cast_nonneg k : (0 : ℚ) ≤ k)]
    have grown := mul_le_mul_of_nonneg_left grows (nonneg.trans leastY)
    linarith
  obtain ⟨below, above⟩ := abs_sub_le_iff.mp apart
  exact ⟨bound below leastB, bound above leastA⟩

/-- What the roundings of a number come to, in parts of the number. -/
theorem abs_sub_le (near : Near k s |a| |b|) (sign : 0 ≤ a * b) (nonneg : 0 ≤ s) (few : k ≤ 2 ^ 51) :
    |a - b| ≤ 3 / 4 * (k / 2 ^ 52) * |b| + s := by
  have grown := growth_pow_le few
  have distance : |a - b| = |(|a| - |b|)| := by
    rcases mul_nonneg_iff.mp sign with ⟨nonnegA, nonnegB⟩ | ⟨nonposA, nonposB⟩
    · rw [abs_of_nonneg nonnegA, abs_of_nonneg nonnegB]
    · rw [abs_of_nonpos nonposA, abs_of_nonpos nonposB, neg_sub_neg, abs_sub_comm]
  have upper := near.le_right.trans (add_le_add_left (mul_le_mul_of_nonneg_left grown (abs_nonneg b)) s)
  have lower := near.le_left.trans (add_le_add_left (mul_le_mul_of_nonneg_left grown (abs_nonneg a)) s)
  have part : 0 ≤ 3 / 4 * ((k : ℚ) / 2 ^ 52) := by positivity
  rw [distance, abs_sub_le_iff]
  refine ⟨by linarith, ?_⟩
  -- The other bound is in terms of `a`, which may be put for `b` only while it is the smaller one.
  rcases le_total |a| |b| with less | greater
  · linarith [mul_le_mul_of_nonneg_left less part]
  · have := mul_nonneg part (abs_nonneg b)
    linarith only [this, greater, nonneg]

/-- The rounded product of a number that has been rounded once and a factor that has no slack, both in terms of a common
unit. -/
theorem rounded_product {z u : ℚ} (rounded : Near 1 (1 / 2) z (a * c / u)) (first : Near 1 (1 / 2) a (b * u))
    (second : Near l 0 c (d * u)) (posUnit : 0 < u) (nonnegA : 0 ≤ a) (nonnegB : 0 ≤ b) (posD : 0 < d) (nonnegZ : 0 ≤ z)
    (few : 1 + l ≤ 2 ^ 51) : Near (l + 2) (d + 1) z (b * d * u) := by
  have factors := (first.mul second (by norm_num) nonnegA (by positivity)).scale (inv_nonneg.mpr posUnit.le)
  have exactly : b * u * (d * u) * u⁻¹ = b * d * u := by field_simp
  rw [exactly, ← div_eq_mul_inv] at factors
  have grown : growth ^ (1 + l) ≤ 2 := by
    have bound : ((1 + l : ℕ) : ℚ) ≤ 2 ^ 51 := by exact_mod_cast few
    linarith [growth_pow_le few]
  have positive := growth_pow_pos l
  have slack : 1 / 2 * growth ^ (1 + l) + 1 / 2 * (d * u) * growth ^ l * u⁻¹ * growth ^ 1 ≤ d + 1 := calc
    _ = (d + 1) * (1 / 2 * growth ^ (1 + l)) := by
      field_simp
      ring
    _ ≤ (d + 1) * 1 := mul_le_mul_of_nonneg_left (by linarith) (by linarith)
    _ = d + 1 := mul_one _
  exact (rounded.trans factors (by norm_num) (by positivity)).mono nonnegZ (by positivity) (by omega) slack

end Near

end Near

section Rounding

variable {n d : ℕ}

theorem cast_div_eq_add (positive : 0 < d) : (n : ℚ) / d = (n / d : ℕ) + (n % d : ℕ) / d := by
  have whole : (d : ℚ) ≠ 0 := by positivity
  have parts : (d : ℚ) * (n / d : ℕ) + (n % d : ℕ) = n := by exact_mod_cast Nat.div_add_mod n d
  field_simp
  linarith

/-- Rounding to a whole number goes half a step at most. -/
theorem abs_roundHalfEven_sub_le (positive : 0 < d) : |(roundHalfEven n d : ℚ) - n / d| ≤ 1 / 2 := by
  have posD : (0 : ℚ) < d := by exact_mod_cast positive
  have low {part : ℕ} (bound : 2 * part ≤ d) : (part : ℚ) / d ≤ 1 / 2 := by
    rw [div_le_iff₀ posD]
    have cast : 2 * (part : ℚ) ≤ d := by exact_mod_cast bound
    linarith
  have high {part : ℕ} (bound : d ≤ 2 * part) : 1 / 2 ≤ (part : ℚ) / d := by
    rw [le_div_iff₀ posD]
    have cast : (d : ℚ) ≤ 2 * part := by exact_mod_cast bound
    linarith
  have less : ((n % d : ℕ) : ℚ) / d ≤ 1 := by
    rw [div_le_one posD]
    exact_mod_cast (Nat.mod_lt n positive).le
  have nonneg : 0 ≤ ((n % d : ℕ) : ℚ) / d := by positivity
  rw [cast_div_eq_add positive, abs_sub_le_iff]
  unfold roundHalfEven
  dsimp only
  split_ifs with below above even
  · have := low below.le
    constructor <;> linarith
  · have := high above.le
    push_cast
    constructor <;> linarith
  · have := low (Nat.le_of_not_lt above)
    constructor <;> linarith
  · have := high (Nat.le_of_not_lt below)
    push_cast
    constructor <;> linarith

theorem div_le_roundHalfEven (n d : ℕ) : n / d ≤ roundHalfEven n d := by
  unfold roundHalfEven
  dsimp only
  split_ifs <;> omega

theorem roundHalfEven_one (n : ℕ) : roundHalfEven n 1 = n := by
  simp [roundHalfEven, Nat.mod_one]

/-- Rounding goes half a step at most. -/
theorem abs_roundUnits_sub_le (positive : 0 < d) :
    |(roundUnits n d : ℚ) - n / d| ≤ 2 ^ spareBits (n / d) / 2 := by
  have posStep : 0 < 2 ^ spareBits (n / d) := Nat.two_pow_pos _
  have posStepQ : (0 : ℚ) < 2 ^ spareBits (n / d) := by positivity
  have near := abs_roundHalfEven_sub_le (n := n) (Nat.mul_pos positive posStep)
  have scaled : (roundUnits n d : ℚ) - n / d =
      (roundHalfEven n (d * 2 ^ spareBits (n / d)) - n / (d * 2 ^ spareBits (n / d) : ℕ)) * 2 ^ spareBits (n / d) := by
    have same : (roundUnits n d : ℚ) = roundHalfEven n (d * 2 ^ spareBits (n / d)) * 2 ^ spareBits (n / d) := by
      exact_mod_cast rfl
    have whole : (d : ℚ) ≠ 0 := by positivity
    rw [same]
    push_cast
    field_simp
  rw [scaled, abs_mul, abs_of_pos posStepQ]
  calc
    _ ≤ 1 / 2 * 2 ^ spareBits (n / d) := mul_le_mul_of_nonneg_right near posStepQ.le
    _ = _ := by ring

/-- Rounding does not go below the multiple of the step that is not above. -/
theorem floor_le_roundUnits (n d : ℕ) :
    n / d / 2 ^ spareBits (n / d) * 2 ^ spareBits (n / d) ≤ roundUnits n d := by
  have whole := div_le_roundHalfEven n (d * 2 ^ spareBits (n / d))
  rw [← Nat.div_div_eq_div_mul] at whole
  exact Nat.mul_le_mul_right _ whole

theorem spareBits_of_lt {quotient : ℕ} (small : quotient < 2 ^ 53) : spareBits quotient = 0 := by
  unfold spareBits
  rcases Nat.eq_zero_or_pos quotient with rfl | positive
  · rfl
  · have := (Nat.log2_lt positive.ne').mpr small
    omega

/-- The step is the last of the 53 bits of a number that has more than these. -/
theorem two_pow_spareBits_mul {quotient : ℕ} (large : 2 ^ 52 ≤ quotient) :
    2 ^ spareBits quotient * 2 ^ 52 = 2 ^ quotient.log2 := by
  have positive : quotient ≠ 0 := (lt_of_lt_of_le (by norm_num) large).ne'
  have bits : 52 ≤ quotient.log2 := (Nat.le_log2 positive).mpr large
  rw [← pow_add, spareBits, Nat.sub_add_cancel bits]

/-- A power of two that is not above a number is not above it once bits of it are cleared. -/
theorem two_pow_le_floor {exponent quotient : ℕ} (least : 2 ^ exponent ≤ quotient) :
    2 ^ exponent ≤ quotient / 2 ^ spareBits quotient * 2 ^ spareBits quotient := by
  rcases Nat.le_total (spareBits quotient) exponent with low | high
  · obtain ⟨more, rfl⟩ := Nat.exists_eq_add_of_le' low
    rw [pow_add]
    refine Nat.mul_le_mul_right _ ((Nat.le_div_iff_mul_le (Nat.two_pow_pos _)).mpr ?_)
    rwa [← pow_add]
  · have positive : quotient ≠ 0 := (lt_of_lt_of_le (Nat.two_pow_pos exponent) least).ne'
    have bits : 2 ^ spareBits quotient ≤ quotient :=
      (Nat.pow_le_pow_right (by norm_num) (Nat.sub_le _ _)).trans (Nat.log2_self_le positive)
    have one : 1 ≤ quotient / 2 ^ spareBits quotient := (Nat.one_le_div_iff (Nat.two_pow_pos _)).mpr bits
    exact (Nat.pow_le_pow_right (by norm_num) high).trans (Nat.le_mul_of_pos_left _ one)

/-- Powers of two are not changed by rounding, so that nothing is rounded across one. -/
theorem two_pow_le_roundUnits {exponent : ℕ} (least : 2 ^ exponent ≤ n / d) : 2 ^ exponent ≤ roundUnits n d :=
  (two_pow_le_floor least).trans (floor_le_roundUnits n d)

/-- Half a step is no more than `c` parts in `2 ^ 53` of a number from `2 ^ 52 / c` on. -/
theorem near_roundUnits_of_le {c : ℕ} (positive : 0 < d) (large : 2 ^ 52 ≤ c * (n / d)) :
    Near c 0 (roundUnits n d) (n / d) := by
  -- Both numbers are at least the quotient without its spare bits, of which half a step is at most so many parts.
  let floor := n / d / 2 ^ spareBits (n / d) * 2 ^ spareBits (n / d)
  have step : 2 ^ spareBits (n / d) * 2 ^ 52 ≤ c * floor := by
    rcases Nat.lt_or_ge (n / d) (2 ^ 52) with small | normal
    · have none := spareBits_of_lt (small.trans (by norm_num))
      simpa [floor, none] using large
    · have many : 0 < c := Nat.pos_of_ne_zero fun zero => by simp [zero] at large
      have positive : n / d ≠ 0 := (lt_of_lt_of_le (by norm_num) normal).ne'
      rw [two_pow_spareBits_mul normal]
      exact (two_pow_le_floor (Nat.log2_self_le positive)).trans (Nat.le_mul_of_pos_left _ many)
  have stepQ : (2 : ℚ) ^ spareBits (n / d) * 2 ^ 52 ≤ c * floor := by exact_mod_cast step
  have below : (floor : ℚ) ≤ n / d := calc
    (floor : ℚ) ≤ (n / d : ℕ) := by exact_mod_cast Nat.div_mul_le_self _ _
    _ ≤ n / d := Nat.cast_div_le
  refine .of_abs_sub_le floor ((abs_roundUnits_sub_le positive).trans ?_)
    (by exact_mod_cast floor_le_roundUnits n d) below (Nat.cast_nonneg _)
  linarith

/-- One rounding, with half a unit of slack for numbers that are too small to have 53 significant bits. -/
theorem near_roundUnits (positive : 0 < d) : Near 1 (1 / 2) (roundUnits n d) (n / d) := by
  have nonneg : (0 : ℚ) ≤ n / d := by positivity
  rcases Nat.lt_or_ge (n / d) (2 ^ 52) with small | normal
  · have apart := abs_roundUnits_sub_le (n := n) positive
    rw [spareBits_of_lt (small.trans (by norm_num)), pow_zero] at apart
    obtain ⟨below, above⟩ := abs_sub_le_iff.mp apart
    have exactly : Near 0 (1 / 2) (roundUnits n d : ℚ) (n / d) := ⟨by linarith, by linarith⟩
    exact exactly.mono (Nat.cast_nonneg _) nonneg (Nat.zero_le _) le_rfl
  · exact (near_roundUnits_of_le positive (by simpa using normal)).mono (Nat.cast_nonneg _) nonneg le_rfl (by norm_num)

/-- Whole numbers of units need no slack, as the small ones are not changed. -/
theorem near_roundUnits_one (n : ℕ) : Near 1 0 (roundUnits n 1) n := by
  rcases Nat.lt_or_ge n (2 ^ 52) with small | normal
  · have same : roundUnits n 1 = n := by
      have none : spareBits n = 0 := spareBits_of_lt (by omega)
      simp [roundUnits, none, roundHalfEven_one]
    rw [same]
    exact (Near.refl _).mono (Nat.cast_nonneg _) (Nat.cast_nonneg _) (Nat.zero_le _) le_rfl
  · simpa using near_roundUnits_of_le (c := 1) Nat.one_pos (by simpa using normal)

end Rounding

section Results

variable {numerator units : ℤ} {denominator : ℕ}

theorem unit_eq : unit = 2 ^ 1074 := by decide +kernel

theorem two_pow_le_unit {exponent : ℕ} (bound : exponent ≤ 1074) : 2 ^ exponent ≤ unit := by
  rw [unit_eq]
  exact pow_le_pow_right₀ one_le_two bound

theorem unit_pos : 0 < unit := two_pow_le_unit (Nat.zero_le _)

/-- What a rounded quotient is if it is finite. -/
theorem eq_of_ofQuotient (result : ofQuotient numerator denominator = finite units) :
    roundUnits numerator.natAbs denominator < overflow ∧
      units = if numerator < 0 then -(roundUnits numerator.natAbs denominator : ℤ)
        else roundUnits numerator.natAbs denominator := by
  unfold ofQuotient at result
  dsimp only at result
  split at result
  · cases result
  · next room => exact ⟨Nat.lt_of_not_le room, (finite.inj result).symm⟩

/-- A finite rounded quotient has the sign of the quotient, and is one rounding away from it. -/
theorem near_of_ofQuotient (positive : 0 < denominator) (result : ofQuotient numerator denominator = finite units) :
    0 ≤ units * numerator ∧ units.natAbs < overflow ∧
      Near 1 (1 / 2) |(units : ℚ)| (|(numerator : ℚ)| / denominator) := by
  obtain ⟨room, value⟩ := eq_of_ofQuotient result
  have magnitude : units.natAbs = roundUnits numerator.natAbs denominator := by
    rw [value]
    split_ifs <;> simp
  refine ⟨?_, magnitude ▸ room, ?_⟩
  · rw [value]
    split_ifs with negative
    · exact mul_nonneg_of_nonpos_of_nonpos (by omega) negative.le
    · exact mul_nonneg (by omega) (by omega)
  · have near := near_roundUnits (n := numerator.natAbs) positive
    rw [← magnitude] at near
    simpa only [Nat.cast_natAbs, Int.cast_abs] using near

theorem ofQuotient_natCast (n d : ℕ) :
    ofQuotient n d = if overflow ≤ roundUnits n d then infinity false else finite (roundUnits n d) := by
  have unsigned : ¬ (n : ℤ) < 0 := by omega
  simp [ofQuotient, unsigned]

theorem near_ofNat {value : ℕ} (result : ofNat value = finite units) :
    ∃ magnitude : ℕ, units = magnitude ∧ Near 1 0 magnitude (value * unit) := by
  rw [ofNat, ofFraction, ← Nat.cast_mul] at result
  obtain ⟨-, rounded⟩ := eq_of_ofQuotient result
  rw [if_neg (by omega), Int.natAbs_natCast] at rounded
  exact ⟨_, rounded, by exact_mod_cast near_roundUnits_one (value * unit)⟩

theorem near_ofFraction_one (positive : 0 < denominator) (bounded : denominator ≤ 2 ^ 64)
    (result : ofFraction 1 denominator = finite units) :
    ∃ magnitude : ℕ, units = magnitude ∧ Near 1 0 magnitude ((denominator : ℚ)⁻¹ * unit) := by
  rw [ofFraction, one_mul] at result
  obtain ⟨-, rounded⟩ := eq_of_ofQuotient result
  rw [if_neg (by omega), Int.natAbs_natCast] at rounded
  have large : 2 ^ 52 ≤ 1 * (unit / denominator) := by
    rw [one_mul, Nat.le_div_iff_mul_le positive]
    calc
      2 ^ 52 * denominator ≤ 2 ^ 52 * 2 ^ 64 := Nat.mul_le_mul_left _ bounded
      _ = 2 ^ 116 := by norm_num
      _ ≤ unit := two_pow_le_unit (by norm_num)
  refine ⟨_, rounded, ?_⟩
  rw [inv_mul_eq_div]
  exact near_roundUnits_of_le positive large

end Results

section Powers

variable {k l : ℕ} {x y : ℚ} {a b : Binary64}

/-- A number of one or more as the result of some roundings, which may have gone beyond the finite numbers. -/
inductive Reaches (steps : ℕ) (exact : ℚ) : Binary64 → Prop
  | beyond : Reaches steps exact (infinity false)
  | within {units : ℕ} (least : unit ≤ units) (most : units < overflow) (near : Near steps 0 units (exact * unit)) :
      Reaches steps exact (finite units)

/-- One more rounding. -/
theorem reaches_ofQuotient {n d : ℕ} (least : unit ≤ n / d) (near : Near k 0 ((n : ℚ) / d) (x * unit)) :
    Reaches (k + 1) x (ofQuotient n d) := by
  have positive : 0 < d := Nat.pos_of_ne_zero fun zero => by
    rw [zero, Nat.div_zero] at least
    exact absurd unit_pos (Nat.not_lt_of_le least)
  have large : 2 ^ 52 ≤ 1 * (n / d) := by
    rw [one_mul]
    exact (two_pow_le_unit (by norm_num)).trans least
  rw [ofQuotient_natCast]
  split_ifs with exceeds
  · exact .beyond
  · refine .within ?_ (Nat.lt_of_not_le exceeds) ?_
    · rw [unit_eq] at least ⊢
      exact two_pow_le_roundUnits least
    · rw [add_comm]
      exact (near_roundUnits_of_le positive large).add near

theorem Reaches.mul (first : Reaches k x a) (second : Reaches l y b) (nonneg : 0 ≤ y) :
    Reaches (k + l + 1) (x * y) (a.mul b) := by
  have nonzero {units : ℕ} (least : unit ≤ units) : units ≠ 0 := (lt_of_lt_of_le unit_pos least).ne'
  have unsigned (units : ℕ) : ¬ (units : ℤ) < 0 := by omega
  cases first with
  | beyond =>
    cases second with
    | beyond => exact .beyond
    | within least => simpa [Binary64.mul, isNegative, nonzero least, unsigned] using Reaches.beyond
  | @within units least most near =>
    cases second with
    | beyond => simpa [Binary64.mul, isNegative, nonzero least, unsigned] using Reaches.beyond
    | @within others leastB mostB nearB =>
      have posUnit : (0 : ℚ) < unit := by exact_mod_cast unit_pos
      have whole : unit ≤ units * others / unit := by
        rw [Nat.le_div_iff_mul_le unit_pos]
        exact Nat.mul_le_mul least leastB
      have product : Near (k + l) 0 (((units * others : ℕ) : ℚ) / unit) (x * y * unit) := by
        have scaled := (near.mul nearB le_rfl (Nat.cast_nonneg _) (mul_nonneg nonneg posUnit.le)).scale
          (inv_nonneg.mpr posUnit.le)
        have same : x * unit * (y * unit) * (unit : ℚ)⁻¹ = x * y * unit := by field_simp
        rwa [same, zero_mul, zero_mul, zero_mul, ← div_eq_mul_inv, ← Nat.cast_mul] at scaled
      rw [Binary64.mul, ← Nat.cast_mul]
      exact reaches_ofQuotient whole product

/-- The whole number with the given binary digits, the lowest first. -/
def ofBits (digits : List Bool) : ℕ := Nat.ofDigits 2 (digits.map Bool.toNat)

theorem ofBits_cons (digit : Bool) (rest : List Bool) :
    ofBits (digit :: rest) = digit.toNat + 2 * ofBits rest := Nat.ofDigits_cons

/-- A power by squaring has gone through as many roundings as its exponent says, for an exact base; those of the base
count as often as the base does. -/
theorem reaches_mulPow {product base : Binary64} {digits : List Bool} (first : Reaches k x product)
    (power : Reaches l y base) (nonneg : 0 ≤ y) :
    Reaches (k + (l + 1) * ofBits digits) (x * y ^ ofBits digits) (mulPow product base digits) := by
  induction digits generalizing k l x y product base with
  | nil => simpa [mulPow, ofBits] using first
  | cons digit rest ih =>
    have chosen : Reaches (k + (l + 1) * digit.toNat) (x * y ^ digit.toNat)
        (if digit then product.mul base else product) := by
      cases digit with
      | false => simpa using first
      | true => simpa [add_assoc] using first.mul power nonneg
    have further := ih chosen (power.mul power nonneg) (mul_nonneg nonneg nonneg)
    have steps : k + (l + 1) * digit.toNat + (l + l + 1 + 1) * ofBits rest =
        k + (l + 1) * ofBits (digit :: rest) := by
      rw [ofBits_cons]
      ring
    have value : x * y ^ digit.toNat * (y * y) ^ ofBits rest = x * y ^ ofBits (digit :: rest) := by
      rw [ofBits_cons]
      ring
    rwa [steps, value] at further

theorem ofBits_testBit (value count : ℕ) : ofBits ((List.range count).map value.testBit) = value % 2 ^ count := by
  induction count with
  | zero => simp [ofBits, Nat.mod_one]
  | succ count ih =>
    have last : (value.testBit count).toNat = value / 2 ^ count % 2 := by
      rw [Nat.testBit_eq_decide_div_mod_eq]
      rcases Nat.mod_two_eq_zero_or_one (value / 2 ^ count) with even | odd
      · simp [even]
      · simp [odd]
    unfold ofBits at ih ⊢
    rw [List.range_succ, List.map_append, List.map_append, Nat.ofDigits_append, ih]
    simp [last, pow_succ, Nat.mod_mul]

theorem ofBits_bits (value : ℕ) : ofBits (bits value) = value := by
  rw [bits, ofBits_testBit, Nat.mod_eq_of_lt Nat.lt_log2_self]

theorem reaches_of_exact {value : ℕ} (exactly : ofNat value = finite (value * unit : ℕ)) (positive : 0 < value)
    (most : value * unit < overflow) : Reaches 0 value (ofNat value) := by
  rw [exactly]
  refine .within (Nat.le_mul_of_pos_left _ positive) most ?_
  rw [Nat.cast_mul]
  exact .refl _

theorem reaches_ten_pow (exponent : ℕ) :
    Reaches exponent (10 ^ exponent) (mulPow (ofNat 1) (ofNat 10) (bits exponent)) := by
  have one : Reaches 0 (1 : ℕ) (ofNat 1) :=
    reaches_of_exact (by decide +kernel) (by decide) (by decide +kernel)
  have ten : Reaches 0 (10 : ℕ) (ofNat 10) :=
    reaches_of_exact (by decide +kernel) (by decide) (by decide +kernel)
  have power (digits : List Bool) := @reaches_mulPow _ _ _ _ _ _ digits one ten (Nat.cast_nonneg 10)
  simpa [ofBits_bits] using power (bits exponent)

/-- A quotient of at least `2 ^ 50` units, which is rounded four times as coarsely as one of `2 ^ 52`. -/
theorem Reaches.reciprocal (power : Reaches k x a) (positive : 0 < x) {units : ℤ}
    (result : a.reciprocal = finite units) (nonzero : units ≠ 0) :
    ∃ magnitude : ℕ, units = magnitude ∧ Near (k + 4) 0 magnitude (x⁻¹ * unit) := by
  cases power with
  | beyond =>
    cases result
    exact absurd rfl nonzero
  | @within divisor least most near =>
    have posUnit : (0 : ℚ) < unit := by exact_mod_cast unit_pos
    have posDivisor : 0 < divisor := lt_of_lt_of_le unit_pos least
    have posDivisorQ : (0 : ℚ) < divisor := by exact_mod_cast posDivisor
    have large : 2 ^ 52 ≤ 4 * (unit * unit / divisor) := by
      have square : 2 ^ 50 * overflow ≤ unit * unit := by decide +kernel
      have quotient : 2 ^ 50 ≤ unit * unit / divisor :=
        (Nat.le_div_iff_mul_le posDivisor).mpr ((Nat.mul_le_mul_left _ most.le).trans square)
      omega
    have exactly : Near k 0 (((unit * unit : ℕ) : ℚ) / divisor) (x⁻¹ * unit) := by
      have scaled := (near.inv posDivisorQ (mul_pos positive posUnit)).scale (mul_pos posUnit posUnit).le
      have same : (x * unit)⁻¹ * (unit * unit) = x⁻¹ * (unit : ℚ) := by field_simp
      rw [same, zero_mul, inv_mul_eq_div] at scaled
      exact_mod_cast scaled
    simp only [Binary64.reciprocal] at result
    rw [if_neg (by omega), if_neg (by omega)] at result
    obtain ⟨-, value⟩ := eq_of_ofQuotient result
    rw [if_neg (by omega), Int.natAbs_natCast] at value
    refine ⟨_, value, ?_⟩
    rw [add_comm]
    exact (near_roundUnits_of_le posDivisor large).add exactly

/-- A power of ten in the format, unless it is beyond the numbers of the format or below them. -/
theorem near_pow_ten {exponent units : ℤ} (result : pow (ofNat 10) exponent = finite units) (nonzero : units ≠ 0) :
    ∃ magnitude : ℕ, units = magnitude ∧
      Near (exponent.natAbs + if exponent < 0 then 4 else 0) 0 magnitude (10 ^ exponent * unit) := by
  have power := reaches_ten_pow exponent.natAbs
  unfold pow at result
  dsimp only at result
  split_ifs at result ⊢ with negative
  · obtain ⟨exponent, rfl⟩ := Int.exists_eq_neg_ofNat negative.le
    rw [Int.natAbs_neg, Int.natAbs_natCast] at power result ⊢
    rw [zpow_neg, zpow_natCast]
    exact power.reciprocal (pow_pos (by norm_num) exponent) result nonzero
  · obtain ⟨exponent, rfl⟩ := Int.eq_ofNat_of_zero_le (Int.not_lt.mp negative)
    rw [result] at power
    cases power with
    | within least most near => exact ⟨_, rfl, near⟩

end Powers

end Binary64

end Reconciliation
