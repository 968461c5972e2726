import Reconciliation.Mutator
import Reconciliation.Object.Place
import Reconciliation.Proofs.Merging

/-! # What mutators do to metadata

The mutators of the library edit contents. The one exception are the annotations of a deployment, into
which the desired ones are merged. So whatever a mutator does, even if it refuses half-way, name,
namespace, labels and owner references of the object stay, and no desired annotation is undone.
-/

namespace Reconciliation

/-- Metadata that are the ones before, or these with the desired annotations merged in. -/
def ObjectMeta.AnnotatedFrom (desired before after : ObjectMeta) : Prop :=
  after = before ∨
    after = { before with annotations := (Merge.merge before.annotations desired.annotations).value }

namespace ObjectMeta.AnnotatedFrom

variable {desired before between after : ObjectMeta}

theorem refl (desired before : ObjectMeta) : AnnotatedFrom desired before before := .inl rfl

/-- Merging the same annotations twice is merging them once, so the relation composes. -/
theorem trans (first : AnnotatedFrom desired before between) (second : AnnotatedFrom desired between after) :
    AnnotatedFrom desired before after := by
  rcases first with rfl | rfl
  · exact second
  · rcases second with rfl | rfl
    · exact .inr rfl
    · right
      simp only [Merge.merge_merge, Edit.value_keep]

theorem name (annotated : AnnotatedFrom desired before after) : after.name = before.name := by
  rcases annotated with rfl | rfl <;> rfl

theorem namespaceName (annotated : AnnotatedFrom desired before after) :
    after.namespaceName = before.namespaceName := by
  rcases annotated with rfl | rfl <;> rfl

theorem labels (annotated : AnnotatedFrom desired before after) : after.labels = before.labels := by
  rcases annotated with rfl | rfl <;> rfl

theorem ownerReferences (annotated : AnnotatedFrom desired before after) :
    after.ownerReferences = before.ownerReferences := by
  rcases annotated with rfl | rfl <;> rfl

theorem resourceVersion (annotated : AnnotatedFrom desired before after) :
    after.resourceVersion = before.resourceVersion := by
  rcases annotated with rfl | rfl <;> rfl

theorem place (annotated : AnnotatedFrom desired before after) : after.place = before.place := by
  rcases annotated with rfl | rfl <;> rfl

/-- A desired annotation that is there stays there. -/
theorem annotations (annotated : AnnotatedFrom desired before after) {key value : String}
    (wanted : Merge.lookup? desired.annotations key = some value)
    (present : Merge.lookup? before.annotations key = some value) :
    Merge.lookup? after.annotations key = some value := by
  rcases annotated with rfl | rfl
  · exact present
  · rw [Merge.lookup_merge, wanted]
    rfl

end ObjectMeta.AnnotatedFrom

/-- A mutator that leaves every object at its place. -/
def Mutate.KeepsPlace {kind : Kind} (mutate : Mutate kind.Object) : Prop :=
  ∀ existing desired, (mutate existing desired).object.metadata.place = existing.metadata.place

namespace Deployment

theorem metadata_mutateUnlessRefused (edit : Deployment → Deployment → Except String (Edit Deployment))
    (existing desired : Object Deployment) :
    (mutateUnlessRefused edit existing desired).object.metadata = existing.metadata := by
  simp only [mutateUnlessRefused]
  split <;> rfl

theorem Rule.annotatedFrom (rule : Rule) (existing desired : Object Deployment) :
    desired.metadata.AnnotatedFrom existing.metadata (rule.mutate existing desired).object.metadata := by
  cases rule with
  | annotations => exact .inr rfl
  | containerResources | args | probes | containerImages =>
    exact .inl (metadata_mutateUnlessRefused _ existing desired)
  | _ => exact .inl rfl

end Deployment

theorem ServiceAccount.Rule.annotatedFrom (rule : Rule) (existing desired : Object ServiceAccount) :
    desired.metadata.AnnotatedFrom existing.metadata (rule.mutate existing desired).object.metadata := by
  cases rule with
  | imagePullSecrets =>
    left
    simp only [Rule.mutate, Mutate.ofEdit, Mutation.object_done, followPullSecrets]
    split <;> rfl

/-- No rule does more to metadata than merge annotations. -/
theorem Kind.annotatedFrom_applyRule (kind : Kind) (rule : kind.Rule) (existing desired : kind.Object) :
    desired.metadata.AnnotatedFrom existing.metadata
      (kind.applyRule rule existing desired).object.metadata := by
  cases kind with
  | deployment => exact Deployment.Rule.annotatedFrom rule existing desired
  | serviceAccount => exact ServiceAccount.Rule.annotatedFrom rule existing desired
  | appStack | persistentVolumeClaim | route => exact rule.elim
  | _ =>
    left
    cases rule <;> rfl

namespace Mutator

variable {kind : Kind}

/-- Induction over a mutator and the members of its chains. -/
@[elab_as_elim]
theorem induct {motive : Mutator kind → Prop} (createOnly : motive .createOnly)
    (refuse : ∀ reason, motive (.refuse reason)) (rule : ∀ governed, motive (.rule governed))
    (chain : ∀ members, (∀ member ∈ members, motive member) → motive (.chain members))
    (mutator : Mutator kind) : motive mutator :=
  @Mutator.rec kind motive (fun members => ∀ member ∈ members, motive member) createOnly refuse rule chain
    (fun _ within => absurd within List.not_mem_nil)
    (fun _ _ first rest => List.forall_mem_cons.mpr ⟨first, rest⟩) mutator

theorem mutate_chain (members : List (Mutator kind)) :
    (Mutator.chain members).mutate = Mutate.chain (members.map mutate) := by
  rw [mutate, mutateEach_eq_map]

/-- No mutator does more to metadata than merge annotations, whether it succeeds or not. -/
theorem annotatedFrom (mutator : Mutator kind) (existing desired : kind.Object) :
    desired.metadata.AnnotatedFrom existing.metadata (mutator.mutate existing desired).object.metadata := by
  induction mutator using induct generalizing existing with
  | createOnly => exact .inl rfl
  | refuse reason => exact .inl rfl
  | rule governed => exact kind.annotatedFrom_applyRule governed existing desired
  | chain members ih =>
    rw [mutate_chain]
    refine Mutate.chain_keeps
      (fun object : kind.Object => desired.metadata.AnnotatedFrom existing.metadata object.metadata)
      ?_ (.refl _ _)
    intro member within current annotated
    obtain ⟨inner, listed, rfl⟩ := List.mem_map.mp within
    exact annotated.trans (ih inner listed current)

theorem keepsPlace (mutator : Mutator kind) : mutator.mutate.KeepsPlace :=
  fun existing desired => (mutator.annotatedFrom existing desired).place

end Mutator

end Reconciliation
