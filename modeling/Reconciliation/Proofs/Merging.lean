import Reconciliation.Merge
import Reconciliation.Metadata
import Reconciliation.Proofs.Edits
import Reconciliation.SortedMap.Lemmas

/-! # What merging leaves

A merged map is known by its look-ups: under a wanted key the wanted value, elsewhere the old one. A
merge reports no change exactly if all wanted values are there already, and then it leaves the very map
it was given; so merging the same map again changes nothing. Metadata that follow desired ones inherit
these facts for labels and annotations.

A selector selects what has all of its labels, and maybe others. Merging adds labels and overrides some, so it keeps
what a selector selects exactly if it overrides none of the selected ones by another value.
-/

namespace Reconciliation

namespace Merge

variable {α : Type}

/-- The value under a key of a map that may be absent. -/
def lookup? (map : Option (SortedMap String α)) (key : String) : Option α := map.bind (·.get? key)

theorem get?_getD_empty (map : Option (SortedMap String α)) (key : String) :
    (map.getD .empty).get? key = lookup? map key := by
  cases map <;> rfl

/-- All entries of the first map are entries of the second one. -/
def Within (part whole : Option (SortedMap String α)) : Prop :=
  ∀ key value, lookup? part key = some value → lookup? whole key = some value

theorem Within.refl (map : Option (SortedMap String α)) : Within map map := fun _ _ found => found

theorem mem_entries_iff {map : Option (SortedMap String α)} {key : String} {value : α} :
    (key, value) ∈ (map.map (·.entries)).getD [] ↔ lookup? map key = some value := by
  cases map with
  | none => simp [lookup?]
  | some map => exact SortedMap.mem_entries_iff

section Entries

variable {put : String → α → Option (SortedMap String α) → Edit (Option (SortedMap String α))}

theorem each_cons (existing : Option (SortedMap String α)) (entry : String × α)
    (rest : List (String × α)) :
    each put existing (entry :: rest) =
      (put entry.1 entry.2 existing).bind fun map => each put map rest :=
  Edit.foldl_bind_cons ..

/-- If putting an entry never goes unreported, a list of entries goes unreported exactly if each of its
entries changes nothing by itself. -/
theorem changed_each_eq_false_iff
    (exact : ∀ key value map, (put key value map).changed = false → put key value map = .keep map)
    {existing : Option (SortedMap String α)} {entries : List (String × α)} :
    (each put existing entries).changed = false ↔
      ∀ entry ∈ entries, put entry.1 entry.2 existing = .keep existing :=
  Edit.changed_foldl_eq_false_iff fun entry => exact entry.1 entry.2

theorem each_eq_keep {existing : Option (SortedMap String α)} {entries : List (String × α)}
    (still : ∀ entry ∈ entries, put entry.1 entry.2 existing = .keep existing) :
    each put existing entries = .keep existing := Edit.foldl_eq_keep still

end Entries

variable [DecidableEq α]

theorem setEntry_eq_keep_iff {key : String} {value : α} {existing : Option (SortedMap String α)} :
    setEntry key value existing = .keep existing ↔ lookup? existing key = some value := by
  simp only [setEntry, get?_getD_empty]
  split
  · next present => simp [present]
  · next missing => simp [Edit.eq_keep_iff, missing]

theorem setEntry_eq_keep_of_unchanged {key : String} {value : α} {existing : Option (SortedMap String α)}
    (unchanged : (setEntry key value existing).changed = false) :
    setEntry key value existing = .keep existing := by
  simp only [setEntry] at unchanged ⊢
  split at unchanged
  · next present => rw [if_pos present]
  · cases unchanged

theorem lookup_setEntry_self (key : String) (value : α) (existing : Option (SortedMap String α)) :
    lookup? (setEntry key value existing).value key = some value := by
  simp only [setEntry, get?_getD_empty]
  split
  · next present => exact present
  · simp [lookup?]

theorem lookup_setEntry_of_ne {key other : String} (different : key ≠ other) (value : α)
    (existing : Option (SortedMap String α)) :
    lookup? (setEntry key value existing).value other = lookup? existing other := by
  simp only [setEntry]
  split
  · rfl
  · simp [lookup?, SortedMap.get?_insert_of_ne _ different, get?_getD_empty]

/-- In a merged map the wanted values are found, and the old ones where nothing is wanted. -/
theorem lookup_merge (existing wanted : Option (SortedMap String α)) (key : String) :
    lookup? (merge existing wanted).value key = (lookup? wanted key).or (lookup? existing key) := by
  cases wanted with
  | none => rfl
  | some wanted =>
    obtain ⟨entries, sorted⟩ := wanted
    change lookup? (each setEntry existing entries).value key =
      (SortedMap.get? ⟨entries, sorted⟩ key).or (lookup? existing key)
    induction entries generalizing existing with
    | nil => rfl
    | cons entry rest ih =>
      have tail := (List.pairwise_cons.mp sorted).2
      rw [each_cons, Edit.value_bind, ih _ tail, SortedMap.get?_cons]
      by_cases here : entry.1 = key
      · subst here
        rw [SortedMap.get?_rest_of_first entry rest sorted, if_pos rfl, lookup_setEntry_self]
        rfl
      · rw [if_neg here, lookup_setEntry_of_ne here]

/-- A merge reports no change exactly if every wanted value is there. -/
theorem changed_merge_eq_false_iff {existing wanted : Option (SortedMap String α)} :
    (merge existing wanted).changed = false ↔ Within wanted existing := by
  rw [merge, changed_each_eq_false_iff fun _ _ _ => setEntry_eq_keep_of_unchanged]
  simp only [setEntry_eq_keep_iff, Prod.forall, mem_entries_iff, Within]

theorem merge_eq_keep_iff {existing wanted : Option (SortedMap String α)} :
    merge existing wanted = .keep existing ↔ Within wanted existing := by
  constructor
  · intro same
    exact changed_merge_eq_false_iff.mp (congrArg Edit.changed same)
  · intro present
    apply each_eq_keep
    rintro ⟨key, value⟩ member
    exact setEntry_eq_keep_iff.mpr (present key value (mem_entries_iff.mp member))

theorem merge_eq_keep_of_unchanged {existing wanted : Option (SortedMap String α)}
    (unchanged : (merge existing wanted).changed = false) : merge existing wanted = .keep existing :=
  merge_eq_keep_iff.mpr (changed_merge_eq_false_iff.mp unchanged)

@[simp] theorem merge_self (map : Option (SortedMap String α)) : merge map map = .keep map :=
  merge_eq_keep_iff.mpr (.refl map)

/-- Merging the same map again changes nothing. -/
@[simp] theorem merge_merge (existing wanted : Option (SortedMap String α)) :
    merge (merge existing wanted).value wanted = .keep (merge existing wanted).value := by
  apply merge_eq_keep_iff.mpr
  intro key value found
  rw [lookup_merge, found]
  rfl

/-- What is within a map is within a merged one exactly if no other value is wanted under any of its keys. -/
theorem within_merge_iff {existing wanted part : Option (SortedMap String α)} (within : Within part existing) :
    Within part (merge existing wanted).value ↔
      ∀ key value other, lookup? part key = some value → lookup? wanted key = some other → other = value := by
  constructor
  · intro kept key value other found overridden
    have merged := kept key value found
    rw [lookup_merge, overridden] at merged
    exact Option.some.inj merged
  · intro agree key value found
    rw [lookup_merge]
    cases overridden : lookup? wanted key with
    | none => exact within key value found
    | some other => rw [agree key value other found overridden]; rfl

end Merge

namespace ObjectMeta

/-- Following metadata take over name and namespace and are merged in labels and annotations. -/
theorem value_follow (existing desired : ObjectMeta) :
    (existing.follow desired).value =
      { existing with
        name := desired.name
        namespaceName := desired.namespaceName
        labels := (Merge.merge existing.labels desired.labels).value
        annotations := (Merge.merge existing.annotations desired.annotations).value } := rfl

theorem changed_follow_eq_false_iff {existing desired : ObjectMeta} :
    (existing.follow desired).changed = false ↔
      existing.name = desired.name ∧ existing.namespaceName = desired.namespaceName ∧
        (Merge.merge existing.labels desired.labels).changed = false ∧
        (Merge.merge existing.annotations desired.annotations).changed = false := by
  simp [follow, and_assoc]

/-- Metadata follow without a change exactly if they have the desired identity, labels and annotations. -/
theorem follow_eq_keep_iff {existing desired : ObjectMeta} :
    existing.follow desired = .keep existing ↔
      existing.name = desired.name ∧ existing.namespaceName = desired.namespaceName ∧
        Merge.merge existing.labels desired.labels = .keep existing.labels ∧
        Merge.merge existing.annotations desired.annotations = .keep existing.annotations := by
  constructor
  · intro same
    obtain ⟨names, namespaces, labels, annotations⟩ :=
      changed_follow_eq_false_iff.mp (congrArg Edit.changed same)
    exact ⟨names, namespaces, Merge.merge_eq_keep_of_unchanged labels,
      Merge.merge_eq_keep_of_unchanged annotations⟩
  · rintro ⟨names, namespaces, labels, annotations⟩
    refine Edit.ext ?_ (changed_follow_eq_false_iff.mpr
      ⟨names, namespaces, congrArg Edit.changed labels, congrArg Edit.changed annotations⟩)
    rw [value_follow, labels, annotations, ← names, ← namespaces]
    rfl

end ObjectMeta

end Reconciliation
