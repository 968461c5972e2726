import Reconciliation.Proofs.ExactEdits
import Reconciliation.Proofs.Merging

/-! # Unions of maps in which one side wins

Merging lets the wanted values win and adding what is missing the existing ones; apart from that they are the same
union. Either is known by its look-ups and by when it leaves no map at all: only if there was none and nothing is
wanted. Its report tells whether the map has become another one, where an absent map and an empty one are different,
and doing it once more changes nothing.
-/

namespace Reconciliation.Merge

variable {α : Type}

section Entries

theorem addEntry_eq_keep_iff {key : String} {value : α} {existing : Option (SortedMap String α)} :
    addEntry key value existing = .keep existing ↔ (lookup? existing key).isSome = true := by
  simp only [addEntry, SortedMap.contains_eq_isSome, get?_getD_empty]
  split
  · next present => simp [present]
  · next missing => simp [Edit.eq_keep_iff, missing]

theorem addEntry_eq_keep_of_unchanged {key : String} {value : α} {existing : Option (SortedMap String α)}
    (unchanged : (addEntry key value existing).changed = false) : addEntry key value existing = .keep existing := by
  simp only [addEntry] at unchanged ⊢
  split at unchanged
  · next present => rw [if_pos present]
  · cases unchanged

/-- An entry is found after it has been added, unless there was another one under its key. -/
theorem lookup_addEntry (key other : String) (value : α) (existing : Option (SortedMap String α)) :
    lookup? (addEntry key value existing).value other =
      (lookup? existing other).or (if key = other then some value else none) := by
  simp only [addEntry, SortedMap.contains_eq_isSome, get?_getD_empty]
  by_cases here : key = other
  · subst here
    cases found : lookup? existing key with
    | some old => simp [found]
    | none => simp [lookup?]
  · rw [if_neg here, Option.or_none]
    split
    · rfl
    · simp [lookup?, SortedMap.get?_insert_of_ne _ here, get?_getD_empty]

theorem isSome_addEntry (key : String) (value : α) (existing : Option (SortedMap String α)) :
    (addEntry key value existing).value.isSome = true := by
  cases existing with
  | none => rfl
  | some map =>
    simp only [addEntry]
    split <;> rfl

theorem isSome_setEntry [DecidableEq α] (key : String) (value : α) (existing : Option (SortedMap String α)) :
    (setEntry key value existing).value.isSome = true := by
  cases existing with
  | none => rfl
  | some map =>
    simp only [setEntry]
    split <;> rfl

/-- Where each entry that is put in leaves a map, there is none only if there was none and no entry. -/
theorem value_each_eq_none_iff
    {put : String → α → Option (SortedMap String α) → Edit (Option (SortedMap String α))}
    (creates : ∀ key value map, (put key value map).value.isSome = true)
    {existing wanted : Option (SortedMap String α)} :
    (each put existing ((wanted.map (·.entries)).getD [])).value = none ↔
      existing = none ∧ (wanted = none ∨ wanted = some .empty) := by
  have empty (map : SortedMap String α) : map.entries = [] ↔ map = .empty :=
    ⟨fun none => SortedMap.ext none, congrArg _⟩
  have entries : (wanted.map (·.entries)).getD [] = [] ↔ wanted = none ∨ wanted = some .empty := by
    cases wanted <;> simp [empty]
  rw [← entries]
  cases (wanted.map (·.entries)).getD [] with
  | nil => simp [each]
  | cons entry rest =>
    have present := Edit.foldl_keeps (fun map : Option (SortedMap String α) => map.isSome = true)
      (fun (entry : String × α) (_ : entry ∈ rest) map _ => creates entry.1 entry.2 map)
      (creates entry.1 entry.2 existing)
    rw [each_cons, Edit.value_bind, each, Option.eq_none_iff_forall_ne_some]
    obtain ⟨map, left⟩ := Option.isSome_iff_exists.mp present
    simp [left]

end Entries

section Missing

variable {existing wanted : Option (SortedMap String α)}

/-- In a map to which the missing entries have been added the old values are found, and the wanted ones where there
was none. -/
theorem lookup_addMissing (existing wanted : Option (SortedMap String α)) (key : String) :
    lookup? (addMissing existing wanted).value key = (lookup? existing key).or (lookup? wanted key) := by
  cases wanted with
  | none => exact (Option.or_none ..).symm
  | some wanted =>
    obtain ⟨entries, sorted⟩ := wanted
    change lookup? (each addEntry existing entries).value key =
      (lookup? existing key).or (SortedMap.get? ⟨entries, sorted⟩ key)
    induction entries generalizing existing with
    | nil => exact (Option.or_none ..).symm
    | cons entry rest ih =>
      have tail := (List.pairwise_cons.mp sorted).2
      rw [each_cons, Edit.value_bind, ih _ tail, lookup_addEntry, SortedMap.get?_cons, Option.or_assoc]
      by_cases here : entry.1 = key
      · rw [if_pos here, if_pos here, Option.some_or]
      · rw [if_neg here, if_neg here, Option.none_or]

theorem addMissing_eq_keep_iff :
    addMissing existing wanted = .keep existing ↔
      ∀ key value, lookup? wanted key = some value → (lookup? existing key).isSome = true := by
  constructor
  · intro same key value found
    have kept := lookup_addMissing existing wanted key
    rw [same, Edit.value_keep, found] at kept
    rw [kept, Option.isSome_or, Option.isSome_some, Bool.or_true]
  · intro present
    apply each_eq_keep
    rintro ⟨key, value⟩ member
    exact addEntry_eq_keep_iff.mpr (present key value (mem_entries_iff.mp member))

theorem addMissing_eq_keep_of_unchanged (unchanged : (addMissing existing wanted).changed = false) :
    addMissing existing wanted = .keep existing := by
  rw [addMissing, changed_each_eq_false_iff fun _ _ _ => addEntry_eq_keep_of_unchanged] at unchanged
  exact each_eq_keep unchanged

@[simp] theorem addMissing_self (map : Option (SortedMap String α)) : addMissing map map = .keep map :=
  addMissing_eq_keep_iff.mpr fun _ _ found => Option.isSome_of_eq_some found

/-- Adding what is missing once more changes nothing. -/
@[simp] theorem addMissing_addMissing (existing wanted : Option (SortedMap String α)) :
    addMissing (addMissing existing wanted).value wanted = .keep (addMissing existing wanted).value := by
  apply addMissing_eq_keep_iff.mpr
  intro key value found
  rw [lookup_addMissing, found, Option.isSome_or, Option.isSome_some, Bool.or_true]

theorem truthful_addMissing (existing wanted : Option (SortedMap String α)) :
    (addMissing existing wanted).Truthful True existing := by
  refine .of_again (addMissing · wanted) (fun _ unchanged => ?_)
    (congrArg Edit.changed (addMissing_addMissing existing wanted))
  exact congrArg Edit.value (addMissing_eq_keep_of_unchanged unchanged)

end Missing

variable [DecidableEq α]

theorem truthful_merge (existing wanted : Option (SortedMap String α)) :
    (merge existing wanted).Truthful True existing := by
  refine .of_again (merge · wanted) (fun _ unchanged => ?_) (congrArg Edit.changed (merge_merge existing wanted))
  exact congrArg Edit.value (merge_eq_keep_of_unchanged unchanged)

/-- Merge maps one after the other. -/
def mergeEach (existing : Option (SortedMap String α)) (maps : List (Option (SortedMap String α))) :
    Option (SortedMap String α) :=
  maps.foldl (fun map wanted => (merge map wanted).value) existing

/-- A merged map has the wanted values and elsewhere the old ones, and a map to which the missing entries have been
added has the old values and elsewhere the wanted ones. Either is absent exactly if there was no map and none, or an
empty one, is wanted, and either reports a change exactly if the map has become another one. Adding once more changes
nothing, and neither does merging the last of a row of maps once more. -/
theorem one_sided_unions (existing wanted : Option (SortedMap String α)) :
    let merged := merge existing wanted
    let filled := addMissing existing wanted
    (∀ key, lookup? merged.value key = (lookup? wanted key).or (lookup? existing key)) ∧
      (∀ key, lookup? filled.value key = (lookup? existing key).or (lookup? wanted key)) ∧
      (merged.value = none ↔ existing = none ∧ (wanted = none ∨ wanted = some .empty)) ∧
      (filled.value = none ↔ existing = none ∧ (wanted = none ∨ wanted = some .empty)) ∧
      (merged.changed = true ↔ merged.value ≠ existing) ∧
      (filled.changed = true ↔ filled.value ≠ existing) ∧
      addMissing filled.value wanted = .keep filled.value ∧
      ∀ earlier, merge (mergeEach existing (earlier ++ [wanted])) wanted =
        .keep (mergeEach existing (earlier ++ [wanted])) := by
  intro merged filled
  refine ⟨lookup_merge existing wanted, lookup_addMissing existing wanted, value_each_eq_none_iff isSome_setEntry,
    value_each_eq_none_iff isSome_addEntry, (truthful_merge existing wanted).changed_iff,
    (truthful_addMissing existing wanted).changed_iff, addMissing_addMissing existing wanted, fun earlier => ?_⟩
  rw [mergeEach, List.foldl_append]
  exact merge_merge _ wanted

end Reconciliation.Merge
