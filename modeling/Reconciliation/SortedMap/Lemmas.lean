import Reconciliation.SortedMap

/-! # Looking up in sorted maps

What each operation does to look-ups, and that look-ups determine a map (`SortedMap.ext_get?`).
-/

namespace Reconciliation.SortedMap

variable {κ α β : Type} [Ord κ]

theorem ext {a b : SortedMap κ α} (same : a.entries = b.entries) : a = b := by
  cases a
  cases b
  simpa using same

@[simp] theorem get?_empty (key : κ) : (empty : SortedMap κ α).get? key = none := rfl

theorem contains_eq_isSome (map : SortedMap κ α) (key : κ) : map.contains key = (map.get? key).isSome := rfl

/-- The first entry of a list that is under a key. -/
theorem get?_cons [Std.LawfulEqOrd κ] [Std.TransOrd κ] [DecidableEq κ] (entry : κ × α)
    (entries : List (κ × α)) (sorted) (key : κ) :
    (⟨entry :: entries, sorted⟩ : SortedMap κ α).get? key =
      if entry.1 = key then some entry.2 else get? ⟨entries, (List.pairwise_cons.1 sorted).2⟩ key := by
  by_cases here : entry.1 = key
  · simp [get?, here]
  · simp [get?, here]

/-- An entry is in the map exactly if its value is found under its key. -/
theorem mem_entries_iff [Std.LawfulEqOrd κ] [Std.TransOrd κ] {map : SortedMap κ α} {key : κ} {value : α} :
    (key, value) ∈ map.entries ↔ map.get? key = some value := by
  classical
  obtain ⟨entries, sorted⟩ := map
  induction entries with
  | nil => simp [get?]
  | cons entry rest ih =>
    have above := (List.pairwise_cons.1 sorted).1
    have tail := ih (List.pairwise_cons.1 sorted).2
    rw [get?_cons]
    by_cases here : entry.1 = key
    · rw [if_pos here]
      constructor
      · intro member
        rcases List.mem_cons.1 member with rfl | later
        · rfl
        · have strict := above _ later
          simp [here] at strict
      · intro found
        obtain ⟨name, content⟩ := entry
        simp only at here found
        simp [here, Option.some.inj found]
    · rw [if_neg here, ← tail]
      constructor
      · intro member
        rcases List.mem_cons.1 member with same | later
        · exact absurd (congrArg Prod.fst same).symm here
        · exact later
      · exact List.mem_cons_of_mem _

theorem get?_insertEntry_self [Std.LawfulEqOrd κ] (key : κ) (value : α) (entries : List (κ × α)) :
    (insertEntry key value entries).find? (fun entry => compare entry.1 key = .eq) = some (key, value) := by
  induction entries with
  | nil => simp [insertEntry]
  | cons entry rest ih =>
    obtain ⟨other, old⟩ := entry
    simp only [insertEntry]
    split
    · simp
    · simp
    · rename_i after
      have different : ¬ compare other key = .eq := by
        intro same
        rw [Std.LawfulEqOrd.eq_of_compare same] at after
        simp at after
      simpa [different] using ih

theorem get?_insertEntry_of_ne [Std.LawfulEqOrd κ] {key other : κ} (different : key ≠ other) (value : α)
    (entries : List (κ × α)) :
    (insertEntry key value entries).find? (fun entry => compare entry.1 other = .eq) =
      entries.find? (fun entry => compare entry.1 other = .eq) := by
  induction entries with
  | nil => simp [insertEntry, different]
  | cons entry rest ih =>
    obtain ⟨name, old⟩ := entry
    simp only [insertEntry]
    split
    · simp [different]
    · rename_i same
      have same := Std.LawfulEqOrd.eq_of_compare same
      subst same
      simp [different]
    · by_cases here : name = other
      · simp [here]
      · simpa [here] using ih

@[simp] theorem get?_insert_self [Std.TransOrd κ] [Std.LawfulEqOrd κ] (map : SortedMap κ α) (key : κ)
    (value : α) : (map.insert key value).get? key = some value := by
  simp [get?, insert, get?_insertEntry_self]

theorem get?_insert_of_ne [Std.TransOrd κ] [Std.LawfulEqOrd κ] (map : SortedMap κ α) {key other : κ}
    (different : key ≠ other) (value : α) :
    (map.insert key value).get? other = map.get? other := by
  simp [get?, insert, get?_insertEntry_of_ne different]

@[simp] theorem get?_erase_self [Std.LawfulEqOrd κ] (map : SortedMap κ α) (key : κ) :
    (map.erase key).get? key = none := by
  simp only [get?, erase, Option.map_eq_none_iff, List.find?_eq_none]
  intro entry member
  have kept := List.mem_filter.1 member
  simpa using kept.2

theorem get?_erase_of_ne [Std.LawfulEqOrd κ] (map : SortedMap κ α) {key other : κ} (different : key ≠ other) :
    (map.erase key).get? other = map.get? other := by
  simp only [get?, erase, List.find?_filter]
  congr 2
  funext entry
  by_cases here : entry.1 = other
  · simp [here, different.symm]
  · simp [here]

/-- Two maps in which the same is found under every key are equal. -/
theorem ext_get? [Std.TransOrd κ] [Std.LawfulEqOrd κ] {a b : SortedMap κ α}
    (same : ∀ key, a.get? key = b.get? key) : a = b := by
  apply ext
  have members : ∀ entry : κ × α, entry ∈ a.entries ↔ entry ∈ b.entries := by
    intro entry
    obtain ⟨key, value⟩ := entry
    rw [mem_entries_iff, mem_entries_iff, same]
  have antisymmetric : ∀ x y : κ × α, compare x.1 y.1 = .lt → compare y.1 x.1 = .lt → x = y := by
    intro x y before after
    have : compare x.1 x.1 = .lt := Std.TransCmp.lt_trans before after
    simp at this
  have irreflexive : ∀ x : κ × α, ¬ compare x.1 x.1 = .lt := by simp
  have nodup : ∀ map : SortedMap κ α, map.entries.Nodup := by
    intro map
    refine List.Pairwise.imp ?_ map.sorted
    rintro x y before rfl
    exact irreflexive x before
  have perm : a.entries.Perm b.entries := (List.perm_ext_iff_of_nodup (nodup a) (nodup b)).2 members
  exact perm.eq_of_pairwise (fun x y _ _ => antisymmetric x y) a.sorted b.sorted

/-- The order is strict, so no later entry has the key of the first. -/
theorem get?_rest_of_first [Std.LawfulEqOrd κ] [Std.TransOrd κ] (entry : κ × α) (rest : List (κ × α))
    (sorted : (entry :: rest).Pairwise fun a b => compare a.1 b.1 = .lt) :
    (⟨rest, (List.pairwise_cons.1 sorted).2⟩ : SortedMap κ α).get? entry.1 = none := by
  apply Option.eq_none_iff_forall_ne_some.mpr
  intro value found
  have strict := (List.pairwise_cons.1 sorted).1 _ (mem_entries_iff.mpr found)
  simp at strict

/-- Where both maps have a value, that of the second is found. -/
theorem get?_overriddenBy [Std.LawfulEqOrd κ] [Std.TransOrd κ] (map overrides : SortedMap κ α) (key : κ) :
    (map.overriddenBy overrides).get? key = (overrides.get? key).or (map.get? key) := by
  classical
  obtain ⟨entries, sorted⟩ := overrides
  induction entries generalizing map with
  | nil => rfl
  | cons entry rest ih =>
    have after := ih (map.insert entry.1 entry.2) (List.pairwise_cons.1 sorted).2
    refine after.trans ?_
    rw [get?_cons]
    by_cases here : entry.1 = key
    · subst here
      rw [get?_rest_of_first entry rest sorted, if_pos rfl, get?_insert_self]
      rfl
    · rw [if_neg here, get?_insert_of_ne map here]

theorem get?_mapValues (f : α → β) (map : SortedMap κ α) (key : κ) :
    (map.mapValues f).get? key = (map.get? key).map f := by
  simp only [get?, mapValues, List.find?_map, Option.map_map]
  rfl

end Reconciliation.SortedMap
