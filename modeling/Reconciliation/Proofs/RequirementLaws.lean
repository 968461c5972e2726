import Mathlib.Data.List.Perm.Subperm
import Reconciliation.Proofs.Merging
import Reconciliation.Proofs.QuantityLaws

/-! # Requirements compared name by name

Two lists of quantities are compared by their sizes and by looking up the names of the first in the second. As no name
occurs twice in a list, equal sizes make up for the names of the second that are not looked up, so the comparison is
one name by name. It does not depend on which list comes first, because two quantities are as far apart from either
side.
-/

namespace Reconciliation

namespace SortedMap

variable {κ α β : Type} [Ord κ]

theorem length_keys (map : SortedMap κ α) : map.keys.length = map.size := List.length_map _

variable [Std.LawfulEqOrd κ]

theorem nodup_keys (map : SortedMap κ α) : map.keys.Nodup := by
  refine List.Pairwise.map (·.1) (fun entry other before => ?_) map.sorted
  intro same
  rw [same] at before
  simp at before

/-- A map that has all keys of a map of the same size has no other keys. -/
theorem keys_perm_of_size_eq {a : SortedMap κ α} {b : SortedMap κ β} (sizes : a.size = b.size)
    (within : ∀ key ∈ a.keys, key ∈ b.keys) : a.keys.Perm b.keys := by
  refine (List.subperm_of_subset a.nodup_keys within).perm_of_length_le ?_
  rw [length_keys, length_keys]
  exact Nat.le_of_eq sizes.symm

variable [Std.TransOrd κ]

theorem mem_keys_iff {map : SortedMap κ α} {key : κ} : key ∈ map.keys ↔ (map.get? key).isSome = true := by
  simp only [keys, List.mem_map, Prod.exists, exists_and_right, exists_eq_right, mem_entries_iff,
    Option.isSome_iff_exists]

end SortedMap

namespace Binary64

/-- Two numbers are as far apart from either side. -/
theorem abs_sub_comm (a b : Binary64) : (a.sub b).abs = (b.sub a).abs := by
  cases a with
  | notANumber => cases b <;> rfl
  | infinity negative =>
    cases b with
    | notANumber | finite units => rfl
    | infinity other => cases negative <;> cases other <;> rfl
  | finite units =>
    cases b with
    | notANumber | infinity negative => rfl
    | finite other =>
      have opposite : other + -units = -(units + -other) := by omega
      simp only [sub, neg, add, opposite, abs_ofQuotient, Int.natAbs_neg]

theorem max_abs_comm (a b : Binary64) : a.abs.max b.abs = b.abs.max a.abs := by
  cases a with
  | notANumber => cases b <;> rfl
  | infinity negative => cases b <;> rfl
  | finite units =>
    cases b with
    | notANumber | infinity negative => rfl
    | finite other => rw [max_abs, max_abs, Nat.max_comm]

end Binary64

theorem Quantity.close_comm (a b : Binary64) : close a b = close b a := by
  rw [close, close, Binary64.abs_sub_comm, Binary64.max_abs_comm]

theorem Quantity.same_comm (a b : String) : same a b = same b a := by
  simp only [same]
  cases value? a <;> cases value? b
  · exact Bool.beq_comm
  · exact Bool.beq_comm
  · exact Bool.beq_comm
  · exact close_comm ..

/-- Two lists of quantities name the same resources, and under each name the quantities are the same. An absent list
names none. -/
structure AlikeByName (a b : Option StringMap) : Prop where
  names : ∀ name, (Merge.lookup? a name).isSome = (Merge.lookup? b name).isSome
  quantities : ∀ name x y, Merge.lookup? a name = some x → Merge.lookup? b name = some y → Quantity.same x y = true

theorem AlikeByName.symm {a b : Option StringMap} (alike : AlikeByName a b) : AlikeByName b a where
  names name := (alike.names name).symm
  quantities name x y first second := Quantity.same_comm .. ▸ alike.quantities name y x second first

theorem sameQuantities_iff {a b : Option StringMap} : sameQuantities a b = true ↔ AlikeByName a b := by
  have compared : sameQuantities a b = true ↔ (a.getD .empty).size = (b.getD .empty).size ∧
      ∀ name x, Merge.lookup? a name = some x → ∃ y, Merge.lookup? b name = some y ∧ Quantity.same x y = true := by
    simp only [sameQuantities, Bool.and_eq_true, beq_iff_eq, List.all_eq_true, Prod.forall, Option.any_eq_true,
      SortedMap.mem_entries_iff, ← Merge.get?_getD_empty]
  have listed (map : Option StringMap) (name : String) :
      name ∈ (map.getD .empty).keys ↔ (Merge.lookup? map name).isSome = true := by
    rw [SortedMap.mem_keys_iff, Merge.get?_getD_empty]
  rw [compared]
  constructor
  · rintro ⟨sizes, found⟩
    have names : (a.getD .empty).keys.Perm (b.getD .empty).keys := by
      refine SortedMap.keys_perm_of_size_eq sizes fun name named => ?_
      obtain ⟨x, first⟩ := Option.isSome_iff_exists.mp ((listed a name).mp named)
      obtain ⟨y, second, -⟩ := found name x first
      exact (listed b name).mpr (Option.isSome_of_eq_some second)
    refine ⟨fun name => ?_, fun name x y first second => ?_⟩
    · rw [Bool.eq_iff_iff, ← listed, ← listed, names.mem_iff]
    · obtain ⟨other, there, same⟩ := found name x first
      rwa [Option.some.inj (second.symm.trans there)]
  · intro alike
    have names : (a.getD .empty).keys.Perm (b.getD .empty).keys := by
      refine (List.perm_ext_iff_of_nodup (SortedMap.nodup_keys _) (SortedMap.nodup_keys _)).mpr fun name => ?_
      rw [listed, listed, alike.names]
    refine ⟨?_, fun name x first => ?_⟩
    · rw [← SortedMap.length_keys, ← SortedMap.length_keys, names.length_eq]
    · have present := alike.names name
      rw [first, Option.isSome_some] at present
      obtain ⟨y, second⟩ := Option.isSome_iff_exists.mp present.symm
      exact ⟨y, second, alike.quantities name x y first second⟩

namespace ResourceRequirements

theorem same_iff (a b : Option ResourceRequirements) :
    same a b = true ↔
      AlikeByName (a.bind (·.limits)) (b.bind (·.limits)) ∧ AlikeByName (a.bind (·.requests)) (b.bind (·.requests)) ∧
        a.bind (·.claims) = b.bind (·.claims) := by
  have unset (a : Option ResourceRequirements) : (a.getD default).limits = a.bind (·.limits) ∧
      (a.getD default).requests = a.bind (·.requests) ∧ (a.getD default).claims = a.bind (·.claims) := by
    cases a <;> exact ⟨rfl, rfl, rfl⟩
  obtain ⟨limits, requests, claims⟩ := unset a
  obtain ⟨limits', requests', claims'⟩ := unset b
  simp only [same, Bool.and_eq_true, sameQuantities_iff, beq_iff_eq, and_assoc, limits, requests, claims, limits',
    requests', claims']

theorem same_comm (a b : Option ResourceRequirements) : same a b = same b a := by
  rw [Bool.eq_iff_iff, same_iff, same_iff]
  constructor
  · exact fun ⟨limits, requests, claims⟩ => ⟨limits.symm, requests.symm, claims.symm⟩
  · exact fun ⟨limits, requests, claims⟩ => ⟨limits.symm, requests.symm, claims.symm⟩

/-- Requirements are the same exactly if limits and requests are alike name by name and the claims are equal, where
absent requirements have nothing set. Which of them comes first does not matter. -/
theorem same_by_name (a b : Option ResourceRequirements) :
    (same a b = true ↔
      AlikeByName (a.bind (·.limits)) (b.bind (·.limits)) ∧ AlikeByName (a.bind (·.requests)) (b.bind (·.requests)) ∧
        a.bind (·.claims) = b.bind (·.claims)) ∧
      same a b = same b a :=
  ⟨same_iff a b, same_comm a b⟩

end ResourceRequirements

end Reconciliation
