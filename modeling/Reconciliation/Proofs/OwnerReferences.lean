import Reconciliation.Proofs.MetadataGrowth

/-! # What adopting does to references

Adopting an object is decided by its references and does nothing but to them. It is refused because of the first
reference to another controller, if there is one, and then nothing has happened. Otherwise the reference of the
owner replaces all references to the owner, whatever there were and wherever they stood, those to others stay in
their order, and the report says whether the references are other ones than before.
-/

namespace Reconciliation.Owner

variable {kind : Kind} {owner : Owner} {object : kind.Object} {references : List OwnerReference}
  {foreign : OwnerReference}

theorem isForeignController_iff {reference : OwnerReference} :
    owner.isForeignController reference = true ↔
      reference.controller = some true ∧ reference.uid ≠ owner.uid := by
  rw [isForeignController, Bool.and_eq_true, beq_iff_eq, bne_iff_ne]

/-- The first of the references to controllers other than the owner. -/
def IsFirstForeign (owner : Owner) (references : List OwnerReference) (foreign : OwnerReference) : Prop :=
  ∃ earlier later, references = earlier ++ foreign :: later ∧
    (foreign.controller = some true ∧ foreign.uid ≠ owner.uid) ∧
    ∀ reference ∈ earlier, reference.controller = some true → reference.uid = owner.uid

theorem find?_eq_some_iff :
    references.find? owner.isForeignController = some foreign ↔ owner.IsFirstForeign references foreign := by
  rw [List.find?_eq_some_iff_append, isForeignController_iff]
  have own (reference : OwnerReference) : (!owner.isForeignController reference) = true ↔
      (reference.controller = some true → reference.uid = owner.uid) := by
    rw [Bool.not_eq_true', ← Bool.not_eq_true, isForeignController_iff, not_and, Decidable.not_not]
  constructor
  · rintro ⟨controls, earlier, later, split, before⟩
    exact ⟨earlier, later, split, controls, fun reference member => (own reference).mp (before reference member)⟩
  · rintro ⟨earlier, later, split, controls, before⟩
    exact ⟨controls, earlier, later, split, fun reference member => (own reference).mpr (before reference member)⟩

/-- There is a first one exactly if there is one. -/
theorem exists_isFirstForeign_iff :
    (∃ foreign, owner.IsFirstForeign references foreign) ↔
      ∃ reference ∈ references, reference.controller = some true ∧ reference.uid ≠ owner.uid := by
  simp only [← find?_eq_some_iff, ← isForeignController_iff]
  rw [← Option.isSome_iff_exists, List.find?_isSome]

/-- What an adoption is refused for. -/
theorem outcome_adopt_error_iff {failure : Failure} :
    (owner.adopt kind object).outcome = .error failure ↔
      ∃ foreign, owner.IsFirstForeign object.metadata.references foreign ∧
        failure = .ownershipConflict kind.name object.metadata.namespaceOrEmpty object.nameAny
          (foreign.kind ++ "/" ++ foreign.name) := by
  simp only [← find?_eq_some_iff]
  cases found : object.metadata.references.find? owner.isForeignController with
  | some foreign => simp [adopt_of_foreign found, eq_comm]
  | none => simp [adopt_of_free (List.find?_eq_none.mp found)]

/-- A refused adoption leaves the object as it is. -/
theorem object_adopt_of_error {failure : Failure} (refusal : (owner.adopt kind object).outcome = .error failure) :
    (owner.adopt kind object).object = object := by
  obtain ⟨foreign, first, -⟩ := outcome_adopt_error_iff.mp refusal
  rw [adopt_of_foreign (find?_eq_some_iff.mpr first), Mutation.object_refused]

/-- What is left of the references to the owner is its own one. -/
theorem referencesTo_adopt {changed : Bool} (success : (owner.adopt kind object).outcome = .ok changed) :
    (owner.adopt kind object).object.metadata.referencesTo owner.uid = [owner.reference] := by
  rw [adopt_of_free (outcome_adopt_ok_iff.mp ⟨changed, success⟩)]
  exact filter_setReference owner _

/-- The report of an adoption says whether the references have become other ones. -/
theorem adopt_changed_iff {changed : Bool} (success : (owner.adopt kind object).outcome = .ok changed) :
    changed = true ↔
      (owner.adopt kind object).object.metadata.ownerReferences ≠ object.metadata.ownerReferences := by
  cases changed with
  | false => simp [adopt_of_unchanged success]
  | true =>
    refine iff_of_true rfl fun same => ?_
    have own : object.metadata.referencesTo owner.uid = [owner.reference] := by
      rw [← referencesTo_adopt success, ObjectMeta.referencesTo, ObjectMeta.referencesTo, ObjectMeta.references,
        ObjectMeta.references, same]
    rw [adopt_of_referencesTo own (outcome_adopt_ok_iff.mp ⟨true, success⟩)] at success
    cases success

/-- Adopting is refused exactly if there is a reference to another controller. Then the object stays as it is, and
the refusal names the first such reference. Otherwise one reference to the owner is left, which is its own one, all
others stay in their order, nothing else in the object changes, the report says whether the references have changed,
and adopting once more changes nothing. -/
theorem adopt_settles_references (kind : Kind) (owner : Owner) (object : kind.Object) :
    let adoption := owner.adopt kind object
    let before := object.metadata
    let after := adoption.object.metadata
    ((∃ failure, adoption.outcome = .error failure) ↔
        ∃ reference ∈ before.references, reference.controller = some true ∧ reference.uid ≠ owner.uid) ∧
      (∀ failure, adoption.outcome = .error failure →
        adoption.object = object ∧ ∃ foreign, owner.IsFirstForeign before.references foreign ∧
          failure = .ownershipConflict kind.name before.namespaceOrEmpty object.nameAny
            (foreign.kind ++ "/" ++ foreign.name)) ∧
      ∀ changed, adoption.outcome = .ok changed →
        after.referencesTo owner.uid = [owner.reference] ∧
          after.referencesBeyond [owner.uid] = before.referencesBeyond [owner.uid] ∧
          adoption.object = { object with metadata.ownerReferences := after.ownerReferences } ∧
          (changed = true ↔ after.ownerReferences ≠ before.ownerReferences) ∧
          owner.adopt kind adoption.object = .done (.keep adoption.object) := by
  intro adoption before after
  refine ⟨?_, fun failure refusal => ?_, fun changed success => ?_⟩
  · rw [← exists_isFirstForeign_iff]
    constructor
    · rintro ⟨failure, refusal⟩
      obtain ⟨foreign, first, -⟩ := outcome_adopt_error_iff.mp refusal
      exact ⟨foreign, first⟩
    · rintro ⟨foreign, first⟩
      exact ⟨_, outcome_adopt_error_iff.mpr ⟨foreign, first, rfl⟩⟩
  · exact ⟨object_adopt_of_error refusal, outcome_adopt_error_iff.mp refusal⟩
  · obtain ⟨references, left⟩ := owner.object_adopt object
    have spares : adoption.object = { object with metadata.ownerReferences := after.ownerReferences } :=
      left.trans (congrArg (fun adopted : kind.Object =>
        { object with metadata.ownerReferences := adopted.metadata.ownerReferences }) left.symm)
    exact ⟨referencesTo_adopt success, owner.referencesBeyond_adopt object, spares, adopt_changed_iff success,
      adopt_of_adopted success rfl⟩

/-- An old reference to the owner and a second one give way to its own, around one to somebody who does not control
the object. Once that one does, it is refused. -/
theorem adopt_settles_references_of_duplicates :
    let shop : Owner :=
      ⟨"prod", { apiVersion := "v1", controller := some true, kind := "AppStack", name := "shop", uid := "1" }⟩
    let old : OwnerReference := { shop.reference with name := "store", controller := none }
    let blog : OwnerReference := { shop.reference with name := "blog", uid := "2", controller := some false }
    let carrying (references : List OwnerReference) : Kind.configMap.Object :=
      ⟨{ name := some "settings", ownerReferences := some references }, {}⟩
    let adoption := shop.adopt .configMap (carrying [old, blog, shop.reference])
    let refusal := shop.adopt .configMap (carrying [old, { blog with controller := some true }])
    adoption.outcome = .ok true ∧ adoption.object = carrying [blog, shop.reference] ∧
      adoption.object.metadata.referencesTo "1" = [shop.reference] ∧
      shop.adopt .configMap adoption.object = .done (.keep adoption.object) ∧
      refusal.outcome = .error (.ownershipConflict "ConfigMap" "" "settings" "AppStack/blog") ∧
      refusal.object = carrying [old, { blog with controller := some true }] := by
  intro shop old blog carrying adoption refusal
  have success : adoption.outcome = .ok true := rfl
  have refused : refusal.outcome = .error (.ownershipConflict "ConfigMap" "" "settings" "AppStack/blog") := rfl
  obtain ⟨-, -, settles⟩ := adopt_settles_references .configMap shop (carrying [old, blog, shop.reference])
  obtain ⟨own, -, -, -, again⟩ := settles true success
  obtain ⟨-, spares, -⟩ :=
    adopt_settles_references .configMap shop (carrying [old, { blog with controller := some true }])
  exact ⟨success, rfl, own, again, refused, (spares _ refused).1⟩

end Reconciliation.Owner
