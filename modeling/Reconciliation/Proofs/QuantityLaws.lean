import Reconciliation.Requirements
import Reconciliation.SortedMap.Lemmas

/-! # Quantities compared with themselves

A text that is no quantity is the same as itself, and so is a quantity with a finite value: the
difference is an exact zero, which is within every tolerance. Requirements all of whose quantities have
finite values are therefore the same as themselves, and no other ones are: the difference of an infinite
value from itself is not a number.
-/

namespace Reconciliation

namespace Binary64

/-- Whether a number is neither an infinity nor what is not a number. -/
def isFinite : Binary64 → Bool
  | finite _ => true
  | _ => false

theorem roundUnits_zero (denominator : Nat) : roundUnits 0 denominator = 0 := by
  simp [roundUnits, roundHalfEven]

theorem overflow_pos : 0 < overflow := by decide +kernel

theorem ofQuotient_zero (denominator : Nat) : ofQuotient 0 denominator = finite 0 := by
  have room : ¬ overflow ≤ 0 := Nat.not_le_of_gt overflow_pos
  simp only [ofQuotient, Int.natAbs_zero, roundUnits_zero, if_neg room, Int.lt_irrefl, if_false, Int.natCast_zero]

theorem sub_self (units : Int) : (finite units).sub (finite units) = finite 0 := by
  simp only [sub, neg, add, Int.add_right_neg, ofQuotient_zero]

theorem abs_ofQuotient (numerator : Int) (denominator : Nat) :
    (ofQuotient numerator denominator).abs = ofQuotient numerator.natAbs denominator := by
  have unsigned : ¬ (numerator.natAbs : Int) < 0 := by omega
  simp only [ofQuotient, unsigned, if_false, Int.natAbs_natCast, decide_false]
  split
  · rfl
  · simp only [abs]
    split <;> simp only [Int.natAbs_neg, Int.natAbs_natCast]

/-- Rounding does not leave the numbers from zero on. -/
theorem zero_le_ofQuotient (numerator denominator : Nat) :
    (finite 0).le (ofQuotient numerator denominator) = true := by
  have positive : ¬ (numerator : Int) < 0 := by omega
  simp only [ofQuotient, positive, if_false]
  split
  · rfl
  · simp only [le, decide_eq_true_eq, Int.natCast_nonneg]

theorem max_self (number : Binary64) : number.max number = number := by
  cases number with
  | notANumber => rfl
  | infinity negative => cases negative <;> rfl
  | finite units => simp [max]

theorem max_abs (x y : Int) : (finite x).abs.max (finite y).abs = finite (Max.max x.natAbs y.natAbs : Nat) := by
  simp only [abs, max, le, decide_eq_true_eq, Int.ofNat_le]
  split
  · next below => exact congrArg (fun units : Nat => finite units) (Nat.max_eq_right below).symm
  · next above => exact congrArg (fun units : Nat => finite units) (Nat.max_eq_left (Nat.le_of_not_le above)).symm

end Binary64

namespace Quantity

open Binary64

theorem tolerance_eq : ∃ units : Nat, tolerance = finite units ∧ units * Nat.pow 2 48 = unit :=
  ⟨Nat.pow 2 1026, by decide +kernel⟩

/-- A finite value is close to itself. -/
theorem close_self {value : Binary64} (limited : value.isFinite = true) : close value value = true := by
  cases value with
  | notANumber => cases limited
  | infinity negative => cases limited
  | finite units =>
    obtain ⟨allowed, whole, -⟩ := tolerance_eq
    rw [close, sub_self, max_self, whole]
    exact zero_le_ofQuotient (allowed * units.natAbs) unit

/-- An infinity is as far from itself as anything can be, and what is not a number is close to nothing. -/
theorem close_self_iff {value : Binary64} : close value value = true ↔ value.isFinite = true := by
  refine ⟨fun near => ?_, close_self⟩
  cases value with
  | finite units => rfl
  | notANumber => cases near
  | infinity negative => cases negative <;> cases near

/-- Whether a text denotes a finite value, if it denotes any. -/
def isBounded (text : String) : Bool := (value? text).all isFinite

theorem same_self {text : String} (bounded : isBounded text = true) : same text text = true := by
  unfold same
  unfold isBounded at bounded
  cases denoted : value? text with
  | none => exact beq_self_eq_true text
  | some value =>
    rw [denoted] at bounded
    exact close_self bounded

theorem same_self_iff {text : String} : same text text = true ↔ isBounded text = true := by
  refine ⟨fun equal => ?_, same_self⟩
  rw [isBounded]
  cases denoted : value? text with
  | none => rfl
  | some value =>
    simp only [same, denoted] at equal
    exact close_self_iff.mp equal

end Quantity

theorem sameQuantities_self {quantities : Option StringMap}
    (bounded : (quantities.getD .empty).values.all Quantity.isBounded = true) :
    sameQuantities quantities quantities = true := by
  simp only [sameQuantities, beq_self_eq_true, Bool.true_and, List.all_eq_true, Prod.forall]
  intro name text member
  rw [SortedMap.mem_entries_iff.mp member]
  exact Quantity.same_self (List.all_eq_true.mp bounded text (List.mem_map_of_mem member))

theorem sameQuantities_self_iff {quantities : Option StringMap} :
    sameQuantities quantities quantities = true ↔
      (quantities.getD .empty).values.all Quantity.isBounded = true := by
  refine ⟨fun equal => List.all_eq_true.mpr fun text listed => ?_, sameQuantities_self⟩
  simp only [sameQuantities, beq_self_eq_true, Bool.true_and, List.all_eq_true, Prod.forall] at equal
  obtain ⟨⟨name, _⟩, member, rfl⟩ := List.mem_map.mp listed
  have compared := equal name _ member
  rw [SortedMap.mem_entries_iff.mp member] at compared
  exact Quantity.same_self_iff.mp compared

namespace ResourceRequirements

/-- Whether all limits and requests denote finite values, if they denote any. -/
def isBounded (requirements : Option ResourceRequirements) : Bool :=
  ((requirements.getD default).limits.getD .empty).values.all Quantity.isBounded &&
    ((requirements.getD default).requests.getD .empty).values.all Quantity.isBounded

theorem same_self {requirements : Option ResourceRequirements} (bounded : isBounded requirements = true) :
    same requirements requirements = true := by
  obtain ⟨limits, requests⟩ := Bool.and_eq_true_iff.mp bounded
  simp only [same, sameQuantities_self limits, sameQuantities_self requests, beq_self_eq_true, Bool.and_self]

theorem same_self_iff {requirements : Option ResourceRequirements} :
    same requirements requirements = true ↔ isBounded requirements = true := by
  refine ⟨fun equal => ?_, same_self⟩
  simp only [same, Bool.and_eq_true, sameQuantities_self_iff] at equal
  exact Bool.and_eq_true_iff.mpr equal.1

end ResourceRequirements

end Reconciliation
