import Reconciliation.Proofs.ContainerEdits
import Reconciliation.Proofs.Merging
import Reconciliation.Proofs.QuantityLaws

/-! # Deployments compared with themselves

A rule that meets the desired deployment itself has nothing to change, with two exceptions: the rule for resources
refuses more or fewer than one container and sets a quantity without a finite value anew, and repeated environment
variables are dropped.
Even without a change a rule may create structures that are absent. So deployments are compared with
these filled in, and then the rules can follow each other in any order.
-/

namespace Reconciliation.Deployment

/-- The deployment with its specification and that of its pods created if they are absent. -/
def filled (deployment : Deployment) : Deployment := deployment.setPodSpec deployment.podSpecOrDefault

@[simp] theorem filled_setSpec_self (deployment : Deployment) :
    (deployment.setSpec deployment.specOrDefault).filled = deployment.filled := by
  obtain ⟨spec, status⟩ := deployment
  cases spec <;> rfl

@[simp] theorem filled_setTemplate_self (deployment : Deployment) :
    (deployment.setTemplate deployment.specOrDefault.template).filled = deployment.filled :=
  filled_setSpec_self deployment

section Alike

variable {existing desired : Deployment} (alike : existing.filled = desired.filled)

include alike

theorem podSpecOrDefault_of_alike : existing.podSpecOrDefault = desired.podSpecOrDefault := by
  change existing.filled.podSpecOrDefault = desired.filled.podSpecOrDefault
  rw [alike]

theorem containers_of_alike : existing.containers = desired.containers :=
  congrArg (·.containers) (podSpecOrDefault_of_alike alike)

theorem initContainers_of_alike : existing.initContainers = desired.initContainers :=
  congrArg (·.initContainers.getD []) (podSpecOrDefault_of_alike alike)

theorem volumes_of_alike : existing.volumes = desired.volumes :=
  congrArg (·.volumes.getD []) (podSpecOrDefault_of_alike alike)

/-- What the specification says besides what the pods run. -/
theorem specOrDefault_of_alike :
    existing.specOrDefault.replicas = desired.specOrDefault.replicas ∧
      existing.specOrDefault.strategy = desired.specOrDefault.strategy ∧
      existing.specOrDefault.template.metadata = desired.specOrDefault.template.metadata := by
  refine ⟨?_, ?_, ?_⟩
  · exact congrArg (·.specOrDefault.replicas) alike
  · exact congrArg (·.specOrDefault.strategy) alike
  · exact congrArg (·.specOrDefault.template.metadata) alike

end Alike

open Edit (Idle)

section Rules

variable {existing desired : Deployment} (alike : existing.filled = desired.filled)

include alike

theorem followPodField_idle {α : Type} [DecidableEq α] (field : PodField α) :
    Idle filled existing (followPodField field existing desired) := by
  have same : field.get existing.podSpecOrDefault = field.get desired.podSpecOrDefault :=
    congrArg field.get (podSpecOrDefault_of_alike alike)
  simp only [followPodField, if_pos same]
  exact .keep _ existing

theorem editContainers_idle {edit : Container → Container → Edit Container}
    (still : ∀ container, edit container container = .keep container) :
    Idle filled existing (editContainers edit existing desired) := by
  rw [editContainers, ← containers_of_alike alike, Edit.pairs_self fun container _ => still container]
  exact .of_eq_keep rfl rfl

theorem editEqualContainers_idle {edit : Container → Container → Edit Container}
    (still : ∀ container, edit container container = .keep container) :
    Idle filled existing (editEqualContainers edit existing desired) := by
  rw [editEqualContainers, if_pos (congrArg List.length (containers_of_alike alike))]
  exact editContainers_idle alike still

theorem editInitContainers_idle {edit : Container → Container → Edit Container}
    (still : ∀ container, edit container container = .keep container) :
    Idle filled existing (editInitContainers edit existing desired) := by
  rw [editInitContainers, ← initContainers_of_alike alike]
  split
  · next absent =>
    rw [← absent]
    exact .of_eq_keep rfl rfl
  · next current present =>
    have listed : existing.initContainers = current := by rw [initContainers, present]; rfl
    rw [listed, Edit.pairs_self fun container _ => still container, Edit.map_keep, ← present]
    exact .of_eq_keep rfl rfl

theorem editEqualInitContainers_idle {edit : Container → Container → Edit Container}
    (still : ∀ container, edit container container = .keep container) :
    Idle filled existing (editEqualInitContainers edit existing desired) := by
  rw [editEqualInitContainers, if_pos (congrArg List.length (initContainers_of_alike alike))]
  exact editInitContainers_idle alike still

theorem mergePodMetadata_idle {get : ObjectMeta → Option StringMap}
    {set : Option StringMap → ObjectMeta → ObjectMeta}
    (lawful : ∀ metadata, set (get metadata) metadata = metadata) :
    Idle filled existing (mergePodMetadata get set existing desired) := by
  rw [mergePodMetadata]
  split
  · exact .keep _ existing
  · next wanted present =>
    obtain ⟨template, listed, metadata⟩ := Option.bind_eq_some_iff.mp present
    obtain ⟨spec, called, rfl⟩ := Option.map_eq_some_iff.mp listed
    have wants : desired.specOrDefault.template.metadata = some wanted := by
      rw [specOrDefault, called]
      exact metadata
    have has := (specOrDefault_of_alike alike).2.2.trans wants
    have own : existing.podMetadata = wanted := by rw [podMetadata, has]; rfl
    simp only [own, Merge.merge_self, Edit.map_keep, lawful]
    refine .of_eq_keep rfl ?_
    rw [setPodMetadata, ← has]
    exact filled_setTemplate_self existing

theorem followReplicas_idle : Idle filled existing (followReplicas existing desired) := by
  rw [followReplicas]
  split
  · exact .keep _ existing
  · next wanted present =>
    obtain ⟨spec, called, replicas⟩ := Option.bind_eq_some_iff.mp present
    have wants : desired.specOrDefault.replicas = some wanted := by
      rw [specOrDefault, called]
      exact replicas
    simp only [← (specOrDefault_of_alike alike).1.trans wants, Edit.replace_self, Edit.map_keep]
    exact .of_eq_keep rfl (filled_setSpec_self existing)

theorem followStrategy_idle : Idle filled existing (followStrategy existing desired) := by
  have wants : desired.spec.bind (·.strategy) = existing.specOrDefault.strategy := by
    rw [(specOrDefault_of_alike alike).2.1, specOrDefault]
    cases desired.spec <;> rfl
  simp only [followStrategy, wants, Edit.replace_self, Edit.map_keep]
  exact .of_eq_keep rfl (filled_setSpec_self existing)

theorem followInitContainerImages_idle :
    Idle filled existing (followInitContainerImages existing desired) := by
  rw [followInitContainerImages, ← initContainers_of_alike alike]
  split
  · exact .keep _ existing
  · next some_listed =>
    have still (container : Container) : editImage container container = .keep container := by
      simp [editImage, Edit.replace_self]
    rw [Edit.pairsOrAdded_self fun container _ => still container, Edit.map_keep]
    cases listed : existing.podSpecOrDefault.initContainers with
    | none => simp [initContainers, listed] at some_listed
    | some current =>
      have same : existing.initContainers = current := by rw [initContainers, listed]; rfl
      rw [same, ← listed]
      exact .of_eq_keep rfl rfl

theorem followVolumes_idle : Idle filled existing (followVolumes existing desired) := by
  have same : existing.sortedVolumes = desired.sortedVolumes := by
    rw [sortedVolumes, volumes_of_alike alike]
    rfl
  rw [followVolumes, if_pos same]
  exact .keep _ existing

theorem followNamedVolumes_idle (names : List String) :
    Idle filled existing (followNamedVolumes names existing desired) := by
  have same : desired.volumes = existing.podSpecOrDefault.volumes.getD [] := by
    rw [podSpecOrDefault_of_alike alike]
    rfl
  rw [followNamedVolumes, same, Edit.namedEach_self]
  exact .of_eq_keep rfl rfl

theorem followInitContainers_idle : Idle filled existing (followInitContainers existing desired) := by
  simp only [followInitContainers, if_pos (initContainers_of_alike alike)]
  exact .keep _ existing

theorem followEnvVar_idle (name : String) : Idle filled existing (followEnvVar name existing desired) := by
  have still (container : Container) : editEnvVar name container container = .keep container := by
    simp [editEnvVar, Edit.named_self]
  have counts : existing.containers.length = desired.containers.length ∧
      existing.initContainers.length = desired.initContainers.length :=
    ⟨congrArg List.length (containers_of_alike alike), congrArg List.length (initContainers_of_alike alike)⟩
  rw [followEnvVar, if_pos counts]
  have first := editInitContainers_idle alike still
  exact first.bind (editContainers_idle (first.filled.trans alike) still)

end Rules

section EnvVars

theorem firstOfEachName_sublist (seen : List String) (env : List EnvVar) :
    (firstOfEachName seen env).Sublist env := by
  induction env generalizing seen with
  | nil => exact .slnil
  | cons first rest ih =>
    simp only [firstOfEachName]
    split
    · exact (ih seen).cons first
    · exact (ih (first.name :: seen)).cons_cons first

/-- Nothing is dropped exactly if all names are new and different. -/
theorem firstOfEachName_eq_self_iff {seen : List String} {env : List EnvVar} :
    firstOfEachName seen env = env ↔
      (∀ item ∈ env, item.name ∉ seen) ∧ (env.map (·.name)).Nodup := by
  induction env generalizing seen with
  | nil => simp [firstOfEachName]
  | cons first rest ih =>
    simp only [firstOfEachName, List.contains_iff_mem]
    by_cases known : first.name ∈ seen
    · have dropped : firstOfEachName seen rest ≠ first :: rest := by
        intro same
        have shorter := (firstOfEachName_sublist seen rest).length_le
        rw [same, List.length_cons] at shorter
        omega
      simp [known, dropped]
    · rw [if_neg known, List.cons.injEq, ih]
      simp only [true_and, List.mem_cons, not_or, forall_eq_or_imp, List.map_cons, List.nodup_cons,
        List.mem_map, not_exists, not_and]
      constructor
      · rintro ⟨fresh, distinct⟩
        exact ⟨⟨known, fun later member => (fresh later member).2⟩,
          fun later member => (fresh later member).1, distinct⟩
      · rintro ⟨⟨-, new⟩, different, distinct⟩
        exact ⟨fun later member => ⟨different later member, new later member⟩, distinct⟩

/-- No variable of the container has the name of another one. -/
def DistinctEnvVars (container : Container) : Prop := ((container.env.getD []).map (·.name)).Nodup

theorem changed_dropRepeatedEnvVars_eq_false_iff {container : Container} :
    (dropRepeatedEnvVars container).changed = false ↔ DistinctEnvVars container := by
  rw [dropRepeatedEnvVars, DistinctEnvVars]
  split
  · next absent => simp [absent]
  · next env present =>
    have whole : (firstOfEachName [] env).length = env.length ↔ firstOfEachName [] env = env :=
      ⟨(firstOfEachName_sublist [] env).eq_of_length, congrArg List.length⟩
    simp [present, whole, firstOfEachName_eq_self_iff]

theorem dropRepeatedEnvVars_of_distinct {container : Container} (distinct : DistinctEnvVars container) :
    dropRepeatedEnvVars container = .keep container := by
  rw [dropRepeatedEnvVars]
  split
  · rfl
  · next env present =>
    have different : (env.map (·.name)).Nodup := by simpa [DistinctEnvVars, present] using distinct
    have same : firstOfEachName [] env = env := firstOfEachName_eq_self_iff.mpr ⟨by simp, different⟩
    simp only [same, ← present]
    exact Edit.eq_keep_iff.mpr ⟨rfl, by simp⟩

end EnvVars

/-- The desired deployments that a rule finds in order. The one for resources needs a single container, with quantities
that denote finite values if they denote any. -/
def Rule.Accepts : Rule → Deployment → Prop
  | .containerResources, desired =>
      desired.containers.length = 1 ∧
        ∀ container ∈ desired.containers, ResourceRequirements.isBounded container.resources = true
  | .removeDuplicateEnvVars, desired => ∀ container ∈ desired.containers, DistinctEnvVars container
  | _, _ => True

/-- What a rule asks of the desired deployments that it finds in order, but for quantities. -/
def Rule.Suits : Rule → Deployment → Prop
  | .containerResources, desired => desired.containers.length = 1
  | rule, desired => rule.Accepts desired

theorem Rule.suits_of_accepts {rule : Rule} {desired : Deployment} (accepts : rule.Accepts desired) :
    rule.Suits desired := by
  cases rule with
  | containerResources => exact accepts.1
  | _ => exact accepts

/-- A rule that meets a deployment like the desired one reports no change exactly if it finds the desired
one in order. -/
theorem Rule.mutate_idleIff (rule : Rule) {existing desired : Object Deployment}
    (annotations : existing.metadata.annotations = desired.metadata.annotations)
    (alike : existing.content.filled = desired.content.filled) :
    Mutation.IdleIff filled (rule.Accepts desired.content) existing (rule.mutate existing desired) := by
  have paired {edit : Container → Container → Edit Container}
      (still : ∀ container, edit container container = .keep container) :
      Mutation.IdleIff filled True existing (mutateUnlessRefused (pairContainers edit) existing desired) := by
    have counts := congrArg List.length (containers_of_alike alike)
    simp only [mutateUnlessRefused, pairContainers, if_pos counts]
    exact .of_idle (editContainers_idle alike still)
  cases rule with
  | annotations =>
    have same : followAnnotations existing desired = .keep existing := by
      rw [followAnnotations, ← annotations, Merge.merge_self, Edit.map_keep]
    simp only [Rule.mutate, Mutate.ofEdit, same]
    exact .of_keep filled existing
  | replicas => exact .of_idle (followReplicas_idle alike)
  | containerResources =>
    by_cases single : desired.content.containers.length = 1
    · obtain ⟨wanted, listed⟩ := List.length_eq_one_iff.mp single
      have accepts : Rule.containerResources.Accepts desired.content ↔
          ResourceRequirements.same wanted.resources wanted.resources = true := by
        simp [Rule.Accepts, listed, ResourceRequirements.same_self_iff]
      rw [mutate_containerResources_of_single listed,
        settleResources_of_single ((containers_of_alike alike).trans listed)]
      refine .of_changed_iff ?_ fun accepted => ?_
      · rw [accepts]
        split <;> simp_all
      · rw [if_pos (accepts.mp accepted)]
        exact .keep filled existing.content
    · rw [mutate_containerResources_of_not_single single]
      exact .of_refused fun accepted => single accepted.1
  | affinity | tolerations | priorityClass | topologySpreadConstraints =>
    exact .of_idle (followPodField_idle alike _)
  | podTemplateLabels | podTemplateAnnotations => exact .of_idle (mergePodMetadata_idle alike fun _ => rfl)
  | strategy => exact .of_idle (followStrategy_idle alike)
  | args | containerImages =>
    exact paired fun container => by simp [editArgs, editImage, Edit.replace_self]
  | probes => exact paired fun container => by simp [editProbes, Edit.replace_self]
  | initContainerImages => exact .of_idle (followInitContainerImages_idle alike)
  | volumes => exact .of_idle (followVolumes_idle alike)
  | containerVolumeMounts =>
    refine .of_idle (editEqualContainers_idle alike fun container => ?_)
    simp [editVolumeMounts, Edit.replace_self]
  | podInitContainers => exact .of_idle (followInitContainers_idle alike)
  | initContainerVolumeMounts =>
    refine .of_idle (editEqualInitContainers_idle alike fun container => ?_)
    simp [editVolumeMounts, Edit.replace_self]
  | removeDuplicateEnvVars =>
    have changes : (editEachContainer dropRepeatedEnvVars existing.content).changed = false ↔
        Rule.removeDuplicateEnvVars.Accepts desired.content := by
      simp only [changed_editEachContainer_eq_false_iff, changed_dropRepeatedEnvVars_eq_false_iff,
        containers_of_alike alike, Rule.Accepts]
    refine .of_changed_iff changes fun accepted => .of_eq_keep (editEachContainer_of_still fun container member => ?_) rfl
    rw [containers_of_alike alike] at member
    exact dropRepeatedEnvVars_of_distinct (accepted container member)
  | namedVolumes names => exact .of_idle (followNamedVolumes_idle alike names)
  | namedContainerVolumeMounts names =>
    refine .of_idle (editEqualContainers_idle alike fun container => ?_)
    simp [editNamedVolumeMounts, Edit.namedEach_self]
  | namedInitContainerVolumeMounts names =>
    refine .of_idle (editEqualInitContainers_idle alike fun container => ?_)
    simp [editNamedVolumeMounts, Edit.namedEach_self]
  | envVar name => exact .of_idle (followEnvVar_idle alike name)

end Reconciliation.Deployment
