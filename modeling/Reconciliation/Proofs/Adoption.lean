import Reconciliation.Owner
import Reconciliation.Proofs.Edits

/-! # Control of an object

An owner *controls* an object if its reference is the only controller reference of the object and the
only one to the owner. Adopting establishes control or refuses; it refuses every owner but the one in
control.
-/

namespace Reconciliation

namespace ObjectMeta

/-- The references to owners, none if they are absent. -/
def references (metadata : ObjectMeta) : List OwnerReference := metadata.ownerReferences.getD []

/-- The references to owners that control the object. -/
def controllers (metadata : ObjectMeta) : List OwnerReference :=
  metadata.references.filter (·.controller == some true)

/-- The references to the owner of a given uid. -/
def referencesTo (metadata : ObjectMeta) (uid : String) : List OwnerReference :=
  metadata.references.filter (·.uid == uid)

end ObjectMeta

namespace Owner

variable {kind : Kind} {owner other : Owner}

/-- The reference says that the owner controls what carries it. -/
def IsController (owner : Owner) : Prop := owner.reference.controller = some true

/-- Every owner that is an object of the cluster is a controller. -/
theorem ofObject_isController {object : kind.Object} (success : ofObject kind object = .ok owner) :
    owner.IsController := by
  simp only [ofObject] at success
  split at success
  · cases success
  · cases success
    rfl
  · cases success

/-- The reference of the owner is the one controller reference, and the one reference to the owner. -/
structure Controls (owner : Owner) (metadata : ObjectMeta) : Prop where
  controllers : metadata.controllers = [owner.reference]
  references : metadata.referencesTo owner.uid = [owner.reference]

/-- Control depends on the references only. -/
theorem Controls.of_references {before after : ObjectMeta} (controls : owner.Controls before)
    (same : after.ownerReferences = before.ownerReferences) : owner.Controls after := by
  have references : after.references = before.references := congrArg (·.getD []) same
  refine ⟨?_, ?_⟩
  · rw [ObjectMeta.controllers, references]
    exact controls.controllers
  · rw [ObjectMeta.referencesTo, references]
    exact controls.references

/-- Where nobody else controls an object, one reference to the owner is all that control takes. -/
theorem controls_of_referencesTo (controller : owner.IsController) {metadata : ObjectMeta}
    (own : metadata.referencesTo owner.uid = [owner.reference])
    (free : ∀ reference ∈ metadata.references, ¬ owner.isForeignController reference) :
    owner.Controls metadata := by
  have within : metadata.controllers =
      (metadata.referencesTo owner.uid).filter (·.controller == some true) := by
    rw [ObjectMeta.controllers, ObjectMeta.referencesTo, List.filter_filter]
    apply List.filter_congr
    intro reference member
    have own := free reference member
    simp only [isForeignController, Bool.and_eq_true, bne_iff_ne, not_and, Decidable.not_not] at own
    cases controlling : reference.controller == some true with
    | false => rfl
    | true => simp [own controlling]
  refine ⟨?_, own⟩
  rw [within, own]
  exact List.filter_cons_of_pos (beq_iff_eq.mpr controller)

theorem setReference_eq_keep_iff {references : List OwnerReference} :
    owner.setReference references = .keep references ↔
      references.filter (·.uid == owner.uid) = [owner.reference] := by
  simp only [setReference]
  split
  · next alone => simp [alone]
  · next wrong => simp [Edit.eq_keep_iff, wrong]

/-- What is set is the only reference to the owner. -/
theorem filter_setReference (owner : Owner) (references : List OwnerReference) :
    (owner.setReference references).value.filter (·.uid == owner.uid) = [owner.reference] := by
  simp only [setReference]
  split
  · next alone => exact alone
  · have others : (references.filter (·.uid != owner.uid)).filter (·.uid == owner.uid) = [] := by
      simp [List.filter_filter]
    rw [List.filter_append, others]
    simp [uid]

/-- Nothing but the reference of the owner is ever set. -/
theorem mem_setReference {references : List OwnerReference} {reference : OwnerReference}
    (member : reference ∈ (owner.setReference references).value) :
    reference ∈ references ∨ reference = owner.reference := by
  simp only [setReference] at member
  split at member
  · exact .inl member
  · rcases List.mem_append.mp member with kept | added
    · exact .inl (List.mem_filter.mp kept).1
    · exact .inr (List.mem_singleton.mp added)

theorem not_isForeignController_self (owner : Owner) : ¬ owner.isForeignController owner.reference := by
  simp [isForeignController, uid]

/-- The first reference to another controller is what an adoption fails on. -/
theorem adopt_of_foreign {object : kind.Object} {foreign : OwnerReference}
    (found : object.metadata.references.find? owner.isForeignController = some foreign) :
    owner.adopt kind object =
      .refused object (.ownershipConflict kind.name object.metadata.namespaceOrEmpty object.nameAny
        (foreign.kind ++ "/" ++ foreign.name)) := by
  rw [ObjectMeta.references] at found
  simp only [adopt, found]

theorem adopt_of_free {object : kind.Object}
    (free : ∀ reference ∈ object.metadata.references, ¬ owner.isForeignController reference) :
    owner.adopt kind object =
      .done ((owner.setReference object.metadata.references).map fun references =>
        { object with metadata.ownerReferences := some references }) := by
  have absent : (object.metadata.ownerReferences.getD []).find? owner.isForeignController = none :=
    List.find?_eq_none.mpr free
  simp only [adopt, absent, ObjectMeta.references]

/-- An adoption succeeds exactly if nobody else controls the object. -/
theorem outcome_adopt_ok_iff {object : kind.Object} :
    (∃ changed, (owner.adopt kind object).outcome = .ok changed) ↔
      ∀ reference ∈ object.metadata.references, ¬ owner.isForeignController reference := by
  constructor
  · rintro ⟨changed, success⟩
    cases found : object.metadata.references.find? owner.isForeignController with
    | none => exact List.find?_eq_none.mp found
    | some foreign =>
      rw [adopt_of_foreign found] at success
      cases success
  · intro free
    exact ⟨_, congrArg Mutation.outcome (adopt_of_free free)⟩

/-- Whatever comes of an adoption, nothing but the references changes. -/
theorem object_adopt (owner : Owner) (object : kind.Object) :
    ∃ references, (owner.adopt kind object).object =
      { object with metadata.ownerReferences := references } := by
  cases found : object.metadata.references.find? owner.isForeignController with
  | none =>
    rw [adopt_of_free (List.find?_eq_none.mp found)]
    exact ⟨_, rfl⟩
  | some foreign =>
    rw [adopt_of_foreign found]
    exact ⟨object.metadata.ownerReferences, rfl⟩

/-- After an adoption the owner controls the object. -/
theorem controls_of_adopt (controller : owner.IsController) {object : kind.Object} {changed : Bool}
    (success : (owner.adopt kind object).outcome = .ok changed) :
    owner.Controls (owner.adopt kind object).object.metadata := by
  have free := outcome_adopt_ok_iff.mp ⟨changed, success⟩
  rw [adopt_of_free free]
  apply controls_of_referencesTo controller
  · exact filter_setReference owner _
  · intro reference member
    rcases mem_setReference member with old | rfl
    · exact free reference old
    · exact not_isForeignController_self owner

/-- Where the reference of the owner stands alone and nobody else is in control, adopting changes
nothing. -/
theorem adopt_of_referencesTo {object : kind.Object}
    (own : object.metadata.referencesTo owner.uid = [owner.reference])
    (free : ∀ reference ∈ object.metadata.references, ¬ owner.isForeignController reference) :
    owner.adopt kind object = .done (.keep object) := by
  rw [adopt_of_free free, setReference_eq_keep_iff.mpr own, Edit.map_keep]
  -- a reference is there, so the list of references is not absent
  cases listed : object.metadata.ownerReferences with
  | none => simp [ObjectMeta.referencesTo, ObjectMeta.references, listed] at own
  | some references =>
    have same : some object.metadata.references = object.metadata.ownerReferences := by
      simp [ObjectMeta.references, listed]
    rw [same]

/-- Adopting once more, even after other parts of the object have changed, changes nothing. -/
theorem adopt_of_adopted {object later : kind.Object} {changed : Bool}
    (success : (owner.adopt kind object).outcome = .ok changed)
    (same : later.metadata.ownerReferences = (owner.adopt kind object).object.metadata.ownerReferences) :
    owner.adopt kind later = .done (.keep later) := by
  have free := outcome_adopt_ok_iff.mp ⟨changed, success⟩
  have references : later.metadata.references = (owner.setReference object.metadata.references).value := by
    rw [adopt_of_free free] at same
    exact congrArg (·.getD []) same
  apply adopt_of_referencesTo
  · rw [ObjectMeta.referencesTo, references]
    exact filter_setReference owner _
  · rw [references]
    intro reference member
    rcases mem_setReference member with old | rfl
    · exact free reference old
    · exact not_isForeignController_self owner

theorem referencesTo_of_adopt_unchanged {object : kind.Object}
    (unchanged : (owner.adopt kind object).outcome = .ok false) :
    object.metadata.referencesTo owner.uid = [owner.reference] := by
  rw [adopt_of_free (outcome_adopt_ok_iff.mp ⟨false, unchanged⟩)] at unchanged
  simp only [Mutation.outcome_done, Edit.changed_map, Except.ok.injEq, setReference] at unchanged
  split at unchanged
  · next alone => exact alone
  · cases unchanged

/-- An adoption that reports no change leaves the object as it is. -/
theorem adopt_of_unchanged {object : kind.Object} (unchanged : (owner.adopt kind object).outcome = .ok false) :
    owner.adopt kind object = .done (.keep object) :=
  adopt_of_referencesTo (referencesTo_of_adopt_unchanged unchanged) (outcome_adopt_ok_iff.mp ⟨false, unchanged⟩)

/-- An adoption that reports no change found the owner in control. -/
theorem controls_of_adopt_unchanged (controller : owner.IsController) {object : kind.Object}
    (unchanged : (owner.adopt kind object).outcome = .ok false) : owner.Controls object.metadata :=
  controls_of_referencesTo controller (referencesTo_of_adopt_unchanged unchanged)
    (outcome_adopt_ok_iff.mp ⟨false, unchanged⟩)

/-- Nobody else can adopt what an owner controls. -/
theorem adopt_of_controls_of_ne {object : kind.Object} (controls : owner.Controls object.metadata)
    (different : other.uid ≠ owner.uid) :
    other.adopt kind object =
      .refused object
        (.ownershipConflict kind.name object.metadata.namespaceOrEmpty object.nameAny owner.describe) := by
  apply adopt_of_foreign
  -- the foreign controllers are those among the controllers, of which there is one
  have foreign : object.metadata.references.filter other.isForeignController = [owner.reference] := by
    have within : object.metadata.references.filter other.isForeignController =
        object.metadata.controllers.filter (·.uid != other.uid) := by
      rw [ObjectMeta.controllers, List.filter_filter]
      apply List.filter_congr
      intro reference _
      exact Bool.and_comm ..
    rw [within, controls.controllers]
    have apart : owner.reference.uid ≠ other.uid := different.symm
    simp [apart]
  rw [← List.head?_filter, foreign]
  rfl

end Owner

end Reconciliation
