import Reconciliation.Mutator
import Reconciliation.Proofs.DeploymentSettling
import Reconciliation.Proofs.MapUnions
import Reconciliation.Proofs.MutatorMetadata

/-! # Desired objects compared with themselves

Whether a rule of any kind, and any mutator made of such rules, reports no change when it meets the desired
object itself. Most rules always do. Besides those of deployments the exceptions are secrets, whose values
are governed by texts while the desired secret may also hold bytes, and image streams that give one tag
twice.
-/

namespace Reconciliation

open Edit (Idle)

theorem ConfigMap.Rule.mutate_idleIff (rule : Rule) {existing desired : Object ConfigMap}
    (same : existing.content = desired.content) :
    Mutation.IdleIff id True existing (rule.mutate existing desired) := by
  cases rule with
  | data | dataDefaults | immutable =>
    refine .of_idle ?_
    simp only [followData, addMissingData, followImmutable, ← same, Edit.replace_self, Merge.addMissing_self,
      Edit.map_keep]
    exact .keep id existing.content

theorem Role.Rule.mutate_idleIff (rule : Rule) {existing desired : Object Role}
    (same : existing.content = desired.content) :
    Mutation.IdleIff id True existing (rule.mutate existing desired) := by
  cases rule with
  | rules =>
    refine .of_idle ?_
    rw [followRules, ← same, Edit.replace_self, Edit.map_keep]
    exact .keep id existing.content

theorem RoleBinding.Rule.mutate_idleIff (rule : Rule) {existing desired : Object RoleBinding}
    (same : existing.content = desired.content) :
    Mutation.IdleIff id True existing (rule.mutate existing desired) := by
  cases rule with
  | subjects | roleRef =>
    refine .of_idle ?_
    simp only [followSubjects, followRoleRef, ← same, Edit.replace_self, Edit.map_keep]
    exact .keep id existing.content

namespace Service

/-- The service with its specification created if it is absent. -/
def filled (service : Service) : Service := { spec := some service.specOrDefault }

theorem Rule.mutate_idleIff (rule : Rule) {existing desired : Object Service}
    (alike : existing.content.filled = desired.content.filled) :
    Mutation.IdleIff filled True existing (rule.mutate existing desired) := by
  have same : existing.content.specOrDefault = desired.content.specOrDefault :=
    Option.some.inj (congrArg Service.spec alike)
  cases rule with
  | ports =>
    refine .of_idle ?_
    rw [followPorts, ← same, Edit.replace_self, Edit.map_keep]
    exact .of_eq_keep rfl rfl
  | selector =>
    refine .of_idle ?_
    rw [followSelector, ← same, Edit.replace_self, Edit.map_keep]
    exact .of_eq_keep rfl rfl

end Service

namespace PodDisruptionBudget

/-- The budget with its specification created if it is absent. -/
def filled (budget : PodDisruptionBudget) : PodDisruptionBudget := { spec := some (budget.spec.getD default) }

theorem Rule.mutate_idleIff (rule : Rule) {existing desired : Object PodDisruptionBudget}
    (alike : existing.content.filled = desired.content.filled) :
    Mutation.IdleIff filled True existing (rule.mutate existing desired) := by
  have same : existing.content.spec.getD default = desired.content.spec.getD default :=
    Option.some.inj (congrArg PodDisruptionBudget.spec alike)
  cases rule with
  | spec =>
    refine .of_idle ?_
    simp only [followSpec, ← same, Edit.keep_bind, Edit.replace_self, Edit.map_keep]
    exact .of_eq_keep rfl rfl

end PodDisruptionBudget

namespace HorizontalPodAutoscaler

/-- The autoscaler with its specification created if it is absent. -/
def filled (autoscaler : HorizontalPodAutoscaler) : HorizontalPodAutoscaler :=
  { spec := some (autoscaler.spec.getD default) }

theorem Rule.mutate_idleIff (rule : Rule) {existing desired : Object HorizontalPodAutoscaler}
    (alike : existing.content.filled = desired.content.filled) :
    Mutation.IdleIff filled True existing (rule.mutate existing desired) := by
  have same : existing.content.spec.getD default = desired.content.spec.getD default :=
    Option.some.inj (congrArg HorizontalPodAutoscaler.spec alike)
  cases rule with
  | spec =>
    refine .of_idle ?_
    simp only [followSpec, ← same, Edit.keep_bind, Edit.replace_self, Edit.map_keep]
    exact .of_eq_keep rfl rfl

end HorizontalPodAutoscaler

namespace Secret

/-- The desired secrets that a rule finds in order: the one for a key needs a text under it, or bytes that
read as the empty text; the one for all texts needs a text for every key that has bytes. -/
def Rule.Accepts : Rule → Secret → Prop
  | defaultsOnly, _ => True
  | key name, desired =>
      desired.texts.contains name = true ∨ (desired.stored.get? name).map Text.Utf8.decodeLossy = some ""
  | stringData, desired => ∀ key, desired.stored.contains key = true → desired.texts.contains key = true

theorem get?_values (secret : Secret) (key : String) : secret.values.get? key = secret.value? key := by
  rw [values, SortedMap.get?_overriddenBy, SortedMap.get?_mapValues]
  rfl

/-- There is a value where there is a text or there are bytes. -/
theorem isSome_value? (secret : Secret) (key : String) :
    (secret.value? key).isSome = (secret.texts.contains key || secret.stored.contains key) := by
  rw [value?, Option.isSome_or, Option.isSome_map]
  rfl

theorem addMissing_self (secret : Secret) : addMissing secret secret = .keep secret := by
  apply Edit.foldl_eq_keep
  rintro ⟨key, text⟩ member
  have present : (secret.value? key).isSome = true := by
    rw [value?, SortedMap.mem_entries_iff.mp member]
    rfl
  exact if_pos present

theorem value?_eq_wanted_iff {secret : Secret} {name : String} :
    secret.value? name = some ((secret.texts.get? name).getD "") ↔ (Rule.key name).Accepts secret := by
  rw [value?, Rule.Accepts, SortedMap.contains_eq_isSome]
  cases secret.texts.get? name with
  | some text => simp
  | none => simp

theorem values_eq_texts_iff {secret : Secret} :
    secret.values = secret.texts ↔ Rule.stringData.Accepts secret := by
  simp only [Rule.Accepts, SortedMap.contains_eq_isSome]
  constructor
  · intro same key stored
    rw [← same, get?_values, isSome_value?, SortedMap.contains_eq_isSome secret.stored, stored, Bool.or_true]
  · intro declared
    apply SortedMap.ext_get?
    intro key
    rw [get?_values, value?]
    cases text : secret.texts.get? key with
    | some text => rfl
    | none =>
      have nothing : secret.stored.get? key = none := by
        apply Option.not_isSome_iff_eq_none.mp
        intro stored
        have named := declared key stored
        rw [text] at named
        cases named
      rw [nothing]
      rfl

theorem Rule.mutate_idleIff (rule : Rule) {existing desired : Object Secret}
    (same : existing.content = desired.content) :
    Mutation.IdleIff id (rule.Accepts desired.content) existing (rule.mutate existing desired) := by
  cases rule with
  | defaultsOnly =>
    refine .of_idle ?_
    rw [← same, addMissing_self]
    exact .keep id existing.content
  | key name =>
    refine .of_changed_iff ?_ fun accepted => ?_
    · rw [same, ← value?_eq_wanted_iff, followKey]
      split <;> simp_all
    · rw [same, followKey, if_pos (value?_eq_wanted_iff.mpr accepted)]
      exact .keep id desired.content
  | stringData =>
    refine .of_changed_iff ?_ fun accepted => ?_
    · rw [same, ← values_eq_texts_iff, followTexts]
      split <;> simp_all
    · rw [same, followTexts, if_pos (values_eq_texts_iff.mpr accepted)]
      exact .keep id desired.content

end Secret

namespace ImageStream

/-- The two tags stand for the same and are imported in the same way. -/
def Agree (a b : TagReference) : Prop := a.source = b.source ∧ a.importPolicy = b.importPolicy

/-- The desired image streams that the rule finds in order: tags of the same name agree. -/
def Rule.Accepts : Rule → ImageStream → Prop
  | tags, desired => ∀ a ∈ desired.spec.tags, ∀ b ∈ desired.spec.tags, a.name = b.name → Agree a b

theorem editTag_eq_keep_iff {current wanted : TagReference} :
    editTag current wanted = .keep current ↔ Agree current wanted := by
  constructor
  · intro same
    have unchanged := congrArg Edit.changed same
    simpa [editTag, Agree] using unchanged
  · rintro ⟨source, importPolicy⟩
    simp [editTag, ← source, ← importPolicy, Edit.replace_self]

theorem editTag_of_unchanged {current wanted : TagReference}
    (unchanged : (editTag current wanted).changed = false) : editTag current wanted = .keep current := by
  apply editTag_eq_keep_iff.mpr
  simpa [editTag, Agree] using unchanged

theorem mergeTag_of_unchanged {wanted : TagReference} {tags : List TagReference}
    (unchanged : (mergeTag wanted tags).changed = false) : mergeTag wanted tags = .keep tags := by
  induction tags with
  | nil => cases unchanged
  | cons tag rest ih =>
    simp only [mergeTag] at unchanged ⊢
    split at unchanged
    · next named =>
      rw [if_pos named, editTag_of_unchanged unchanged, Edit.map_keep]
    · next other =>
      rw [if_neg other, ih unchanged, Edit.map_keep]

/-- A tag changes nothing exactly if the first one of its name agrees with it. -/
theorem mergeTag_eq_keep_iff {wanted : TagReference} {tags : List TagReference} :
    mergeTag wanted tags = .keep tags ↔
      ∃ tag, tags.find? (·.name = wanted.name) = some tag ∧ Agree tag wanted := by
  induction tags with
  | nil => simp [mergeTag, Edit.eq_keep_iff]
  | cons tag rest ih =>
    simp only [mergeTag, List.find?_cons]
    by_cases named : tag.name = wanted.name
    · simp [named, Edit.eq_keep_iff, ← editTag_eq_keep_iff]
    · simp only [named, decide_false, ← ih]
      simp [Edit.eq_keep_iff]

/-- Every tag agrees with the first of its name exactly if all tags of the same name agree. -/
theorem mergeTag_self_iff {desired : ImageStream} :
    (∀ wanted ∈ desired.spec.tags, mergeTag wanted desired.spec.tags = .keep desired.spec.tags) ↔
      Rule.tags.Accepts desired := by
  simp only [mergeTag_eq_keep_iff, Rule.Accepts]
  constructor
  · intro first a memberA b memberB named
    obtain ⟨tag, found, agreesA⟩ := first a memberA
    obtain ⟨other, foundB, agreesB⟩ := first b memberB
    rw [← named, found] at foundB
    cases foundB
    exact ⟨agreesA.1.symm.trans agreesB.1, agreesA.2.symm.trans agreesB.2⟩
  · intro agree wanted member
    have listed : (desired.spec.tags.find? (·.name = wanted.name)).isSome = true := by
      rw [List.find?_isSome]
      exact ⟨wanted, member, by simp⟩
    obtain ⟨tag, found⟩ := Option.isSome_iff_exists.mp listed
    have named : tag.name = wanted.name := by simpa using List.find?_some found
    exact ⟨tag, found, agree tag (List.mem_of_find?_eq_some found) wanted member named⟩

theorem Rule.mutate_idleIff (rule : Rule) {existing desired : Object ImageStream}
    (same : existing.content = desired.content) :
    Mutation.IdleIff id (rule.Accepts desired.content) existing (rule.mutate existing desired) := by
  cases rule with
  | tags =>
    refine .of_changed_iff ?_ fun accepted => ?_
    · rw [same, followTags, Edit.changed_map, ← mergeTag_self_iff]
      exact Edit.changed_foldl_eq_false_iff fun wanted tags => mergeTag_of_unchanged
    · rw [same, followTags, Edit.foldl_eq_keep (mergeTag_self_iff.mpr accepted), Edit.map_keep]
      exact .keep id desired.content

end ImageStream

namespace ServiceAccount

theorem foldl_addByName_of_subset {references additions : List LocalObjectReference}
    (listed : ∀ reference ∈ additions, reference ∈ references) :
    additions.foldl addByName references = references := by
  induction additions with
  | nil => rfl
  | cons first rest ih =>
    rw [List.forall_mem_cons] at listed
    have known : references.any (·.name == first.name) = true :=
      List.any_eq_true.mpr ⟨first, listed.1, by simp⟩
    rw [List.foldl_cons, addByName, if_pos known]
    exact ih listed.2

theorem Rule.mutate_idleIff (rule : Rule) {existing desired : Object ServiceAccount}
    (same : existing.content = desired.content) :
    Mutation.IdleIff id True existing (rule.mutate existing desired) := by
  cases rule with
  | imagePullSecrets =>
    have kept : followPullSecrets existing desired = .keep existing := by
      rw [followPullSecrets, ← same]
      exact if_pos (by rw [foldl_addByName_of_subset fun _ member => (List.mem_filter.mp member).1])
    simp only [Rule.mutate, Mutate.ofEdit, kept]
    exact .of_keep id existing

end ServiceAccount

theorem SpecRule.mutate_idleIff {α : Type} [DecidableEq α] (rule : SpecRule) {existing desired : Object α}
    (same : existing.content = desired.content) :
    Mutation.IdleIff id True existing (rule.mutate existing desired) := by
  cases rule with
  | spec =>
    refine .of_idle ?_
    rw [← same, Edit.replace_self]
    exact .keep id existing.content

namespace Kind

/-- A content with the structures created that rules create where they are absent. -/
def fill : (kind : Kind) → kind.Content → kind.Content
  | deployment => Deployment.filled
  | horizontalPodAutoscaler => HorizontalPodAutoscaler.filled
  | podDisruptionBudget => PodDisruptionBudget.filled
  | service => Service.filled
  | _ => id

/-- The desired contents that a rule finds in order. -/
def Accepts : (kind : Kind) → kind.Rule → kind.Content → Prop
  | deployment, rule, desired => Deployment.Rule.Accepts rule desired
  | imageStream, rule, desired => ImageStream.Rule.Accepts rule desired
  | secret, rule, desired => Secret.Rule.Accepts rule desired
  | _, _, _ => True

/-- What a rule asks of the desired contents that it finds in order. Left out is what it makes of quantities without a
finite value, and of tags of one name that disagree. -/
def Suits : (kind : Kind) → kind.Rule → kind.Content → Prop
  | deployment, rule, desired => Deployment.Rule.Suits rule desired
  | imageStream, _, _ => True
  | secret, rule, desired => Secret.Rule.Accepts rule desired
  | _, _, _ => True

theorem suits_of_accepts {kind : Kind} {rule : kind.Rule} {desired : kind.Content}
    (accepts : kind.Accepts rule desired) : kind.Suits rule desired := by
  cases kind with
  | deployment => exact Deployment.Rule.suits_of_accepts accepts
  | secret => exact accepts
  | _ => trivial

/-- The object has the annotations of the desired one, and its content up to what rules create. -/
structure Alike (kind : Kind) (existing desired : kind.Object) : Prop where
  annotations : existing.metadata.annotations = desired.metadata.annotations
  content : kind.fill existing.content = kind.fill desired.content

/-- A rule that meets an object like the desired one reports no change exactly if it finds the desired one
in order. -/
theorem applyRule_idleIff (kind : Kind) (rule : kind.Rule) {existing desired : kind.Object}
    (alike : kind.Alike existing desired) :
    Mutation.IdleIff kind.fill (kind.Accepts rule desired.content) existing
      (kind.applyRule rule existing desired) := by
  have content := alike.content
  cases kind with
  | configMap => exact ConfigMap.Rule.mutate_idleIff rule content
  | deployment => exact Deployment.Rule.mutate_idleIff rule alike.annotations content
  | horizontalPodAutoscaler => exact HorizontalPodAutoscaler.Rule.mutate_idleIff rule content
  | imageStream => exact ImageStream.Rule.mutate_idleIff rule content
  | podDisruptionBudget => exact PodDisruptionBudget.Rule.mutate_idleIff rule content
  | role => exact Role.Rule.mutate_idleIff rule content
  | roleBinding => exact RoleBinding.Rule.mutate_idleIff rule content
  | secret => exact Secret.Rule.mutate_idleIff rule content
  | service => exact Service.Rule.mutate_idleIff rule content
  | serviceAccount => exact ServiceAccount.Rule.mutate_idleIff rule content
  | grafanaDashboard | podMonitor | prometheusRule | serviceMonitor =>
    exact SpecRule.mutate_idleIff rule content
  | appStack | persistentVolumeClaim | route => exact rule.elim

end Kind

namespace Mutator

variable {kind : Kind}

/-- The mutators whose rules all meet a condition. One that always refuses is not among them. -/
inductive ConsistsOf (condition : kind.Rule → Prop) : Mutator kind → Prop
  | createOnly : ConsistsOf condition .createOnly
  | rule {governed : kind.Rule} (meets : condition governed) : ConsistsOf condition (.rule governed)
  | chain {members : List (Mutator kind)} (each : ∀ member ∈ members, ConsistsOf condition member) :
      ConsistsOf condition (.chain members)

theorem ConsistsOf.mono {condition weaker : kind.Rule → Prop} (implies : ∀ rule, condition rule → weaker rule)
    {mutator : Mutator kind} (consists : ConsistsOf condition mutator) : ConsistsOf weaker mutator := by
  induction consists with
  | createOnly => exact .createOnly
  | rule meets => exact .rule (implies _ meets)
  | chain _ ih => exact .chain ih

/-- The mutators that find a desired content in order: all their rules do. -/
def Accepts (desired : kind.Content) : Mutator kind → Prop := ConsistsOf (kind.Accepts · desired)

/-- The mutators all of whose rules suit a desired content. -/
def Suits (desired : kind.Content) : Mutator kind → Prop := ConsistsOf (kind.Suits · desired)

theorem Accepts.suits {desired : kind.Content} {mutator : Mutator kind} (accepts : mutator.Accepts desired) :
    mutator.Suits desired :=
  accepts.mono fun _ => Kind.suits_of_accepts

theorem accepts_rule_iff {desired : kind.Content} {governed : kind.Rule} :
    (Mutator.rule governed).Accepts desired ↔ kind.Accepts governed desired :=
  ⟨fun | .rule accepted => accepted, fun accepted => .rule accepted⟩

theorem accepts_chain_iff {desired : kind.Content} {members : List (Mutator kind)} :
    (Mutator.chain members).Accepts desired ↔ ∀ member ∈ members, member.Accepts desired :=
  ⟨fun | .chain accepted => accepted, .chain⟩

/-- A chain whose members report no change exactly if they find the desired content in order does so too. -/
theorem chain_idleIff {members : List (Mutator kind)} {desired : kind.Object}
    (steps : ∀ member ∈ members, ∀ {existing : kind.Object}, kind.Alike existing desired →
      Mutation.IdleIff kind.fill (member.Accepts desired.content) existing (member.mutate existing desired))
    {existing : kind.Object} (alike : kind.Alike existing desired) :
    Mutation.IdleIff kind.fill (∀ member ∈ members, member.Accepts desired.content) existing
      (Mutate.chain (members.map mutate) existing desired) := by
  induction members generalizing existing with
  | nil =>
    rw [List.map_nil, Mutate.chain_nil]
    exact (Mutation.IdleIff.of_keep kind.fill existing).of_iff (by simp)
  | cons first rest ih =>
    obtain ⟨head, tail⟩ := List.forall_mem_cons.mp steps
    rw [List.map_cons, Mutate.chain_cons]
    refine ((head alike).andThen fun accepted => ih tail ?_).of_iff List.forall_mem_cons.symm
    obtain ⟨metadata, content⟩ := (head alike).keeps accepted
    exact ⟨(congrArg (·.annotations) metadata).trans alike.annotations, content.trans alike.content⟩

/-- A mutator that meets an object like the desired one reports no change exactly if it finds the desired
one in order. -/
theorem mutate_idleIff (mutator : Mutator kind) {existing desired : kind.Object}
    (alike : kind.Alike existing desired) :
    Mutation.IdleIff kind.fill (mutator.Accepts desired.content) existing
      (mutator.mutate existing desired) := by
  induction mutator using induct generalizing existing with
  | createOnly => exact (Mutation.IdleIff.of_keep kind.fill existing).of_iff (iff_of_true trivial .createOnly)
  | refuse reason => exact .of_refused fun accepted => nomatch accepted
  | rule governed => exact (kind.applyRule_idleIff governed alike).of_iff accepts_rule_iff.symm
  | chain members ih =>
    rw [mutate_chain]
    exact (chain_idleIff (fun member within => ih member within) alike).of_iff accepts_chain_iff.symm

end Mutator

end Reconciliation
