import Reconciliation.Proofs.DeploymentLaws

/-! # Lawful rules of deployments side by side

Two lawful rules give each other no work, because they are about different aspects of a deployment or idle, or
because they are about init containers and agree on what these are to be. There is one exception: the rule for the
images of init containers may add init containers whose volume mounts are then new to the other one.
-/

namespace Reconciliation

namespace Deployment

section InitContainers

variable {rule other : Rule} {existing desired : Object Deployment}

/-- The rule for all of the init containers has no work exactly if they are the desired ones. -/
theorem quiet_podInitContainers_iff :
    Rule.podInitContainers.mutate.Quiet desired existing ↔
      existing.content.initContainers = desired.content.initContainers :=
  ⟨fun quiet => changed_followInitContainers_eq_false_iff.mp (Except.ok.inj quiet),
    fun same => congrArg Except.ok (changed_followInitContainers_eq_false_iff.mpr same)⟩

/-- Init containers that are the desired ones are in order for every lawful rule, and stay as they are. -/
theorem quiet_of_same_initContainers (lawful : rule.IsLawful) (about : .initContainers ∈ rule.reads)
    (same : existing.content.initContainers = desired.content.initContainers) :
    rule.mutate.Quiet desired existing ∧
      (rule.mutate existing desired).object.content.initContainers = desired.content.initContainers := by
  have paired {edit : Container → Container → Edit Container}
      (still : ∀ container, edit container container = .keep container) :
      (Mutate.ofContentEdit (editEqualInitContainers edit)).Quiet desired existing ∧
        (editEqualInitContainers edit existing.content desired.content).value.initContainers =
          desired.content.initContainers := by
    have edited : Edit.pairs edit desired.content.initContainers desired.content.initContainers =
        .keep desired.content.initContainers := Edit.pairs_self fun container _ => still container
    refine ⟨congrArg Except.ok ?_, ?_⟩
    · simp only [editEqualInitContainers, same, if_true, Edit.changed_map, changed_editInitContainers, edited,
        Edit.changed_keep]
    · simp only [editEqualInitContainers, same, if_true, initContainers_editInitContainers, edited, Edit.value_keep]
  have still (container : Container) : editImage container container = .keep container := by
    simp [editImage, Edit.replace_self]
  cases rule with
  | podInitContainers =>
    exact ⟨quiet_podInitContainers_iff.mpr same, initContainers_followInitContainers _ _⟩
  | initContainerImages =>
    have edited : Edit.pairsOrAdded editImage desired.content.initContainers desired.content.initContainers =
        .keep desired.content.initContainers := Edit.pairsOrAdded_self fun container _ => still container
    refine ⟨congrArg Except.ok ?_, ?_⟩
    · simp only [followInitContainerImages, same, edited]
      split <;> rfl
    · change (followInitContainerImages existing.content desired.content).value.initContainers = _
      simp only [followInitContainerImages, same, edited]
      split
      · exact same
      · rfl
  | initContainerVolumeMounts => exact paired fun container => by simp [editVolumeMounts, Edit.replace_self]
  | namedInitContainerVolumeMounts names =>
    obtain rfl : names = [] := lawful
    exact paired fun container => rfl
  | envVar name => exact lawful.elim
  | _ => simp [Rule.reads] at about

/-- Where the rule for the images of init containers has no work, it leaves all of them as they are. -/
theorem initContainers_of_quiet_initContainerImages
    (quiet : Rule.initContainerImages.mutate.Quiet desired existing) :
    (Rule.initContainerImages.mutate existing desired).object.content.initContainers =
      existing.content.initContainers := by
  have unchanged : (followInitContainerImages existing.content desired.content).changed = false :=
    Except.ok.inj quiet
  change (followInitContainerImages existing.content desired.content).value.initContainers = _
  simp only [followInitContainerImages] at unchanged ⊢
  split at unchanged
  · next nothing => rw [if_pos nothing, Edit.value_keep]
  · next wanted =>
    have exact (current wanted : Container) (same : (editImage current wanted).changed = false) :
        (editImage current wanted).value = current := by
      have image : current.image = wanted.image := by simpa [editImage] using same
      simp [editImage, ← image]
    rw [if_neg wanted]
    exact Edit.value_pairsOrAdded_of_unchanged exact unchanged

/-- The volume mounts of init containers have nothing to do with their images. -/
theorem initContainerVolumeMounts_spares_images (desired : Object Deployment) :
    Rule.initContainerVolumeMounts.mutate.Spares Rule.initContainerImages.mutate desired := by
  intro existing _ quiet
  have images :
      ((Rule.initContainerVolumeMounts.mutate existing desired).object.content.initContainers).map (·.image) =
      existing.content.initContainers.map (·.image) := by
    change (editEqualInitContainers editVolumeMounts existing.content desired.content).value.initContainers.map _ = _
    rw [editEqualInitContainers]
    split
    · rw [initContainers_editInitContainers]
      exact map_value_pairs (fun _ _ => rfl) _ _
    · rfl
  have depends (a b wanted : Container) (same : a.image = b.image) :
      (editImage a wanted).changed = (editImage b wanted).changed := by simp [editImage, same]
  refine Eq.trans (congrArg Except.ok ?_) quiet
  simp only [Edit.changed_map, followInitContainerImages]
  split
  · rfl
  · exact changed_pairsOrAdded_congr depends images _

end InitContainers

section Sparing

variable {rule other : Rule}

/-- The rules that are given no names and have nothing to do. -/
def Rule.IsIdle : Rule → Prop
  | namedVolumes names | namedContainerVolumeMounts names | namedInitContainerVolumeMounts names => names = []
  | _ => False

/-- The rule that an aspect is there for; that for all init containers is not the only one for them. -/
def Aspect.governor : Aspect → Rule
  | annotations => .annotations
  | replicas => .replicas
  | strategy => .strategy
  | podLabels => .podTemplateLabels
  | podAnnotations => .podTemplateAnnotations
  | affinity => .affinity
  | tolerations => .tolerations
  | priorityClass => .priorityClass
  | topologySpreadConstraints => .topologySpreadConstraints
  | volumes => .volumes
  | initContainers => .podInitContainers
  | containers .args => .args
  | containers .probes => .probes
  | containers .image => .containerImages
  | containers .resources => .containerResources
  | containers .volumeMounts => .containerVolumeMounts
  | containers .env => .removeDuplicateEnvVars

theorem Rule.writes_of_isLawful (lawful : rule.IsLawful) : rule.writes = rule.reads := by
  cases rule <;> first | rfl | exact lawful.elim

/-- A lawful rule that has something to do shares its aspect with no other one, unless it is about init
containers. -/
theorem Rule.eq_of_mem_reads (lawful : rule.IsLawful) {aspect : Aspect} (reads : aspect ∈ rule.reads) :
    rule.IsIdle ∨ aspect = .initContainers ∨ rule = aspect.governor := by
  cases rule <;> first
    | exact lawful.elim
    | exact .inl lawful
    | (obtain rfl := List.mem_singleton.mp reads; first | exact .inr (.inr rfl) | exact .inr (.inl rfl))

/-- An idle rule never has any work, and writes nothing. -/
theorem Rule.mutate_of_isIdle (idle : rule.IsIdle) (existing desired : Object Deployment) :
    rule.mutate.Quiet desired existing ∧
      ∀ aspect : Aspect, aspect.read (rule.mutate existing desired).object = aspect.read existing := by
  have nothing (current wanted : Container) : editNamedVolumeMounts [] current wanted = .keep current := rfl
  cases rule with
  | namedVolumes names =>
    obtain rfl : names = [] := idle
    refine ⟨rfl, fun aspect => ?_⟩
    cases aspect <;> rfl
  | namedContainerVolumeMounts names =>
    obtain rfl : names = [] := idle
    refine ⟨congrArg Except.ok ?_, fun aspect => ?_⟩
    · simp only [editEqualContainers, editContainers, Edit.pairs_of_idle nothing, Edit.changed_map]
      split <;> rfl
    · change aspect.read (existing.withContent
        (editEqualContainers (editNamedVolumeMounts []) existing.content desired.content).value) = _
      simp only [editEqualContainers, editContainers, Edit.pairs_of_idle nothing]
      split
      · cases aspect <;> rfl
      · rfl
  | namedInitContainerVolumeMounts names =>
    obtain rfl : names = [] := idle
    refine ⟨congrArg Except.ok ?_, fun aspect => ?_⟩
    · simp only [editEqualInitContainers, Edit.changed_map]
      split
      · rw [changed_editInitContainers, Edit.pairs_of_idle nothing, Edit.changed_keep]
      · rfl
    · by_cases about : aspect = .initContainers
      · subst about
        change (editEqualInitContainers _ existing.content desired.content).value.initContainers = _
        rw [editEqualInitContainers]
        split
        · rw [initContainers_editInitContainers, Edit.pairs_of_idle nothing, Edit.value_keep]
          rfl
        · rfl
      · exact read_editEqualInitContainers existing desired _ about
  | _ => exact idle.elim

theorem spares_of_isIdle (idle : rule.IsIdle ∨ other.IsIdle) (desired : Object Deployment) :
    rule.mutate.Spares other.mutate desired := by
  intro existing _ quiet
  rcases idle with idle | idle
  · have kept := other.outcome_mutate_congr desired fun aspect _ =>
      (rule.mutate_of_isIdle idle existing desired).2 aspect
    exact kept.trans quiet
  · exact (other.mutate_of_isIdle idle _ desired).1

theorem Rule.eq_of_about_initContainers (lawful : rule.IsLawful) (busy : ¬ rule.IsIdle)
    (about : .initContainers ∈ rule.reads) :
    rule = .podInitContainers ∨ rule = .initContainerImages ∨ rule = .initContainerVolumeMounts := by
  cases rule with
  | podInitContainers => exact .inl rfl
  | initContainerImages => exact .inr (.inl rfl)
  | initContainerVolumeMounts => exact .inr (.inr rfl)
  | envVar _ => exact lawful.elim
  | namedInitContainerVolumeMounts names => exact absurd lawful busy
  | _ => simp [Rule.reads] at about

/-- Of two rules about init containers none gives work to the other, with the one exception. -/
theorem spares_of_about_initContainers (lawful : rule.IsLawful) (others : other.IsLawful)
    (busy : ¬ rule.IsIdle) (busyOther : ¬ other.IsIdle) (about : .initContainers ∈ rule.reads)
    (aboutOther : .initContainers ∈ other.reads)
    (apart : rule = .initContainerImages → other ≠ .initContainerVolumeMounts) (desired : Object Deployment) :
    rule.mutate.Spares other.mutate desired := by
  have self := (Rule.lawful_of_isLawful lawful desired).spares_self
  have whole : rule.mutate.Spares Rule.podInitContainers.mutate desired := by
    intro existing _ quiet
    have same := quiet_podInitContainers_iff.mp quiet
    exact quiet_podInitContainers_iff.mpr (quiet_of_same_initContainers lawful about same).2
  rcases other.eq_of_about_initContainers others busyOther aboutOther with rfl | rfl | rfl
  · exact whole
  · rcases rule.eq_of_about_initContainers lawful busy about with rfl | rfl | rfl
    · intro existing _ _
      exact (quiet_of_same_initContainers others aboutOther (initContainers_followInitContainers _ _)).1
    · exact self
    · exact initContainerVolumeMounts_spares_images desired
  · rcases rule.eq_of_about_initContainers lawful busy about with rfl | rfl | rfl
    · intro existing _ _
      exact (quiet_of_same_initContainers others aboutOther (initContainers_followInitContainers _ _)).1
    · exact absurd rfl (apart rfl)
    · exact self

/-- Of two lawful rules none gives work to the other, except that the rule for the images of init containers can
add some whose volume mounts are wrong. -/
theorem Rule.spares_of_isLawful (lawful : rule.IsLawful) (others : other.IsLawful)
    (apart : rule = .initContainerImages → other ≠ .initContainerVolumeMounts) (desired : Object Deployment) :
    rule.mutate.Spares other.mutate desired := by
  by_cases idle : rule.IsIdle ∨ other.IsIdle
  · exact spares_of_isIdle idle desired
  obtain ⟨busy, busyOther⟩ := not_or.mp idle
  by_cases disjoint : ∀ aspect ∈ other.reads, aspect ∉ rule.writes
  · exact spares_of_disjoint disjoint desired
  -- the two rules share an aspect, so they are the same one or about init containers
  simp only [Classical.not_forall, Classical.not_not] at disjoint
  obtain ⟨aspect, reads, writes⟩ := disjoint
  rw [rule.writes_of_isLawful lawful] at writes
  rcases (rule.eq_of_mem_reads lawful writes).resolve_left busy with rfl | same
  · exact spares_of_about_initContainers lawful others busy busyOther writes reads apart desired
  rcases (other.eq_of_mem_reads others reads).resolve_left busyOther with rfl | sameOther
  · exact spares_of_about_initContainers lawful others busy busyOther writes reads apart desired
  · obtain rfl : rule = other := same.trans sameOther.symm
    exact (lawful_of_isLawful lawful desired).spares_self

/-- Lawful rules that have no work themselves leave each other in peace. -/
theorem Rule.sparesIdly_of_isLawful (lawful : rule.IsLawful) (others : other.IsLawful)
    (desired : Object Deployment) : rule.mutate.SparesIdly other.mutate desired := by
  by_cases apart : rule = .initContainerImages → other ≠ .initContainerVolumeMounts
  · exact (spares_of_isLawful lawful others apart desired).idly
  · simp only [Classical.not_imp, Classical.not_not] at apart
    obtain ⟨rfl, rfl⟩ := apart
    intro existing idle quiet
    refine (Rule.outcome_mutate_congr desired .initContainerVolumeMounts fun aspect reads => ?_).trans quiet
    obtain rfl := List.mem_singleton.mp reads
    exact initContainers_of_quiet_initContainerImages idle

end Sparing

end Deployment

end Reconciliation
