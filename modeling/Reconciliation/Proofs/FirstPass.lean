import Reconciliation.Proofs.DeletionPrecedence
import Reconciliation.Proofs.PassEffect

/-! # A first pass

Where none of its parts is there, a pass over a stack creates them, each with a reference to the stack and no other
one, and succeeds unless it cannot be told whether monitors are served. An object that was created like that is adopted
as it is by later calls, so that what becomes of it is what its mutator makes of it.
-/

namespace Reconciliation

namespace Owner

/-- An object as an owner creates it: it carries the reference to the owner and no other. -/
def created {kind : Kind} (owner : Owner) (wanted : kind.Object) : kind.Object :=
  { wanted with metadata.ownerReferences := some [owner.reference] }

theorem adopt_of_bare {kind : Kind} (owner : Owner) {wanted : kind.Object}
    (bare : wanted.metadata.ownerReferences = none) :
    owner.adopt kind wanted = ⟨owner.created wanted, .ok true⟩ := by
  have none_listed : wanted.metadata.references = [] := by rw [ObjectMeta.references, bare, Option.getD_none]
  rw [adopt_of_free (by simp [none_listed]), none_listed]
  rfl

end Owner

/-- The verdict on what there is succeeds, and leaves something there. -/
def Verdict.Yields {kind : Kind} (verdict : Verdict) (existing left : Option kind.Object) : Prop :=
  (∃ outcome, verdict.result = .ok outcome) ∧ verdict.leaves existing = left

namespace Reconcile

variable {kind : Kind} {owner : Owner} {mutator : Mutator kind} {wanted before : kind.Object}

/-- Where there is nothing, an object that is wanted is created. -/
theorem yields_of_absent {mutate : Mutate kind.Object} (bare : wanted.metadata.ownerReferences = none)
    (untagged : wanted.metadata.isTaggedForDeletion = false) :
    (verdict owner mutate wanted none).Yields none (some (owner.created wanted)) := by
  rw [verdict_none_of_untagged untagged, owner.adopt_of_bare bare]
  exact ⟨⟨.created, rfl⟩, Resource.as?_same kind _⟩

theorem yields_of_absent_of_tagged {mutate : Mutate kind.Object} (tagged : wanted.metadata.isTaggedForDeletion = true) :
    (verdict owner mutate wanted none).Yields (none : Option kind.Object) none := by
  rw [verdict_none_of_tagged tagged]
  exact ⟨⟨.unchanged, rfl⟩, rfl⟩

theorem succeeds_of_absent {mutate : Mutate kind.Object} (bare : wanted.metadata.ownerReferences = none) :
    ∃ outcome, (verdict owner mutate wanted none).result = .ok outcome := by
  cases tagged : wanted.metadata.isTaggedForDeletion with
  | true => exact (yields_of_absent_of_tagged tagged).1
  | false => exact (yields_of_absent bare tagged).1

/-- An object that was created for another wanted one of the same metadata becomes what the mutator makes of it, if the
mutator reports every change. -/
theorem yields_of_created {mutate : Mutate kind.Object} (bare : wanted.metadata.ownerReferences = none)
    (untagged : wanted.metadata.isTaggedForDeletion = false) (same : before.metadata = wanted.metadata)
    {after : kind.Object} {changed : Bool} (mutated : mutate (owner.created before) wanted = .done ⟨after, changed⟩)
    (reported : changed = false → after = owner.created before) :
    (verdict owner mutate wanted (some (owner.created before))).Yields (some (owner.created before)) (some after) := by
  have adopted := owner.adopt_of_bare (same ▸ bare : before.metadata.ownerReferences = none)
  obtain ⟨follows, own, -⟩ := adopted_in_line (congrArg Mutation.outcome adopted)
  rw [adopted, same] at follows
  rw [adopted] at own
  rw [verdict_some_of_untagged untagged, verdictOnExisting_of_adopted follows own, mutated]
  cases changed with
  | false => exact ⟨⟨.unchanged, rfl⟩, congrArg some (reported rfl).symm⟩
  | true => exact ⟨⟨.updated, rfl⟩, Resource.as?_same kind _⟩

/-- An object that is wanted in both of two calls, or tagged for deletion in one of them, becomes what the second call
leaves where there is nothing. -/
theorem yields_again (settles : mutator.mutate.SettlesAt wanted) (accepts : mutator.Accepts wanted.content)
    (bare : wanted.metadata.ownerReferences = none)
    (alternatives : before = wanted ∨ before.metadata.isTaggedForDeletion = true ∨
      wanted.metadata.isTaggedForDeletion = true) :
    let left := (verdict owner mutator.mutate before none).leaves none
    ∃ fresh, (verdict owner mutator.mutate wanted none).Yields none fresh ∧
      (verdict owner mutator.mutate wanted left).Yields left fresh := by
  intro left
  cases tagged : wanted.metadata.isTaggedForDeletion with
  | true =>
    have nothing := @yields_of_absent_of_tagged kind owner wanted mutator.mutate tagged
    refine ⟨none, nothing, ?_⟩
    cases left with
    | none => exact nothing
    | some object =>
      rw [verdict_some_of_tagged tagged]
      exact ⟨⟨.deleted, rfl⟩, rfl⟩
  | false =>
    have created := @yields_of_absent kind owner wanted mutator.mutate bare tagged
    refine ⟨_, created, ?_⟩
    rcases alternatives with rfl | earlier | now
    · obtain ⟨⟨outcome, decided⟩, same⟩ := created
      rw [show verdict owner mutator.mutate before left = _ from verdict_again settles accepts decided]
      exact ⟨⟨.unchanged, rfl⟩, same⟩
    · rwa [show left = none from (yields_of_absent_of_tagged earlier).2]
    · rw [tagged] at now
      cases now

end Reconcile

namespace AppStack

open Api

variable {stack : Stack} {owner : Owner} {place : Place}

/-- What an attempt wants depends on the toggle only if one of two attempts is about a part that is switched off. -/
theorem Part.wanted_toggled (part : Part) (enabled : Bool) :
    wanted owner { part with enabled } = part.wanted owner ∨
      (wanted owner { part with enabled }).metadata.isTaggedForDeletion = true ∨
      (part.wanted owner).metadata.isTaggedForDeletion = true := by
  obtain ⟨kind, desired, mutator, first⟩ := part
  simp only [wanted, Object.ifEnabled]
  cases toggled : kind.isToggled with
  | false => exact .inl rfl
  | true =>
    cases enabled with
    | false => exact .inr (.inl (ObjectMeta.isTaggedForDeletion_tagForDeletion _ _))
    | true =>
      cases first with
      | false => exact .inr (.inr (ObjectMeta.isTaggedForDeletion_tagForDeletion _ _))
      | true => exact .inl rfl

section Parts

variable {part : Part} {before after : Server}

/-- Tagging for deletion is all that an attempt adds to the metadata of a part, apart from its place. -/
theorem Part.ownerReferences_wanted (owner : Owner) (part : Part) :
    (part.wanted owner).metadata.ownerReferences = part.desired.metadata.ownerReferences := by
  simp only [wanted, Object.ifEnabled]
  split <;> rfl

/-- An attempt at a part that is not there succeeds, unless it cannot be told whether the kind is served. -/
theorem Part.succeeds_of_absent (bare : part.desired.metadata.ownerReferences = none)
    (absent : before.held part.kind place = none)
    (answered : part.kind.isOptional = true →
      ∃ served, before.serves part.kind.apiVersion part.kind.name = .ok served) :
    ∃ outcome, (part.verdict owner place before).result = .ok outcome := by
  have created := @Reconcile.succeeds_of_absent part.kind owner (part.wanted owner) part.mutator.mutate
    ((part.ownerReferences_wanted owner).trans bare)
  simp only [verdict, absent]
  split
  · next needed =>
    obtain ⟨served, answer⟩ := answered needed
    rw [answer]
    cases served with
    | false => exact ⟨.skipped, rfl⟩
    | true => exact created
  · exact created

/-- A part for which an earlier attempt succeeded, possibly for another toggle, becomes what an attempt leaves where there
is nothing. -/
theorem Part.yields_toggled (settles : part.Settles) (bare : part.desired.metadata.ownerReferences = none)
    {enabled : Bool}
    (serves : ∀ groupVersion kind, after.serves groupVersion kind = before.serves groupVersion kind)
    (absent : before.held part.kind place = none) {outcome : Outcome}
    (success : (verdict owner place before { part with enabled }).result = .ok outcome)
    (left : after.held part.kind place = (verdict owner place before { part with enabled }).leaves none) :
    ∃ fresh, (part.verdict owner place before).Yields none fresh ∧
      (part.verdict owner place after).Yields (after.held part.kind place) fresh := by
  have content := part.content_wanted owner
  have again := @Reconcile.yields_again part.kind owner part.mutator (part.wanted owner)
    (wanted owner { part with enabled }) (settles.settlesAt _ content) (content ▸ settles.accepts)
    ((part.ownerReferences_wanted owner).trans bare) (part.wanted_toggled enabled)
  cases needed : part.kind.isOptional with
  | false =>
    simp only [verdict, absent, needed, Bool.false_eq_true, if_false] at left ⊢
    rw [left]
    exact again
  | true =>
    simp only [verdict, absent, serves, needed, if_true] at left success ⊢
    cases answered : before.serves part.kind.apiVersion part.kind.name with
    | error failure =>
      rw [answered] at success
      cases success
    | ok served =>
      rw [answered] at left
      cases served with
      | false => exact ⟨none, ⟨⟨.skipped, rfl⟩, rfl⟩, ⟨.skipped, rfl⟩, left⟩
      | true =>
        dsimp only at left ⊢
        rw [left]
        exact again

end Parts

section Pass

variable {name namespaceName uid : String} {server : Server}

theorem ownerReferences_of_parts (stack : Stack) :
    ∀ part ∈ parts stack, part.desired.metadata.ownerReferences = none := by
  intro part within
  rw [metadata_of_parts stack part within]
  rfl

/-- A part that does not depend on a toggle is wanted as the stack says. -/
theorem Part.wanted_of_untoggled (isLive : IsLive stack name namespaceName uid) {part : Part}
    (within : part ∈ parts stack)
    (always : part.kind.isToggled = false) : part.wanted (ownerOf name namespaceName uid) = part.desired := by
  have placed : part.desired.metadata.namespaceName = some namespaceName := by
    rw [metadata_of_parts stack part within]
    exact isLive.within
  simp only [wanted, Object.ifEnabled, always, Bool.false_and, Bool.false_eq_true, if_false, ownerOf, Object.inNamespace,
    ← placed]

section Required

variable {part : Part} (isLive : IsLive stack name namespaceName uid) (within : part ∈ parts stack)
  (required : part.kind.isOptional = false) (always : part.kind.isToggled = false)

include isLive within required always

theorem Part.yields_of_absent (absent : server.held part.kind ⟨namespaceName, name⟩ = none) :
    (part.verdict (ownerOf name namespaceName uid) ⟨namespaceName, name⟩ server).Yields
      (server.held part.kind ⟨namespaceName, name⟩) (some ((ownerOf name namespaceName uid).created part.desired)) := by
  have metadata := metadata_of_parts stack part within
  rw [verdict, if_neg (by simp [required]), absent, part.wanted_of_untoggled isLive within always]
  exact Reconcile.yields_of_absent (by rw [metadata]; rfl) (by rw [metadata]; rfl)

theorem Part.yields_of_created {before after : part.kind.Object} {changed : Bool}
    (held : server.held part.kind ⟨namespaceName, name⟩ = some ((ownerOf name namespaceName uid).created before))
    (same : before.metadata = partMetadata stack)
    (mutated : part.mutator.mutate ((ownerOf name namespaceName uid).created before) part.desired =
      .done ⟨after, changed⟩)
    (reported : changed = false → after = (ownerOf name namespaceName uid).created before) :
    (part.verdict (ownerOf name namespaceName uid) ⟨namespaceName, name⟩ server).Yields
      (server.held part.kind ⟨namespaceName, name⟩) (some after) := by
  have metadata := metadata_of_parts stack part within
  rw [verdict, if_neg (by simp [required]), held, part.wanted_of_untoggled isLive within always]
  exact Reconcile.yields_of_created (by rw [metadata]; rfl) (by rw [metadata]; rfl) (same.trans metadata.symm) mutated
    reported

end Required

/-- A first pass succeeds, unless it cannot be told whether monitors are served. -/
theorem pass_succeeds_of_absent (isLive : IsLive stack name namespaceName uid) (steady : server.IsSteady)
    (filed : server.IsFiled) (absent : ∀ kind ∈ partKinds, server.held kind ⟨namespaceName, name⟩ = none)
    {served : Bool}
    (answered : server.serves Kind.serviceMonitor.apiVersion Kind.serviceMonitor.name = .ok served) :
    ((serve (pass stack)).run Server.handler server).result = .ok .interval := by
  refine (pass_succeeds_iff isLive steady filed).mpr ⟨rfl, fun part within => ?_⟩
  have listed : part.kind ∈ partKinds := kind_parts stack ▸ List.mem_map_of_mem within
  have optional : ∀ kind ∈ partKinds, kind.isOptional = true → kind = .serviceMonitor := by decide
  exact Part.succeeds_of_absent (ownerReferences_of_parts stack part within) (absent part.kind listed)
    fun needed => ⟨served, optional part.kind listed needed ▸ answered⟩

end Pass

end AppStack

end Reconciliation
