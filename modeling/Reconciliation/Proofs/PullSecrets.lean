import Mathlib.Data.List.Dedup
import Reconciliation.Mutator.ServiceAccount
import Reconciliation.Proofs.Chains
import Reconciliation.Proofs.EditLaws

/-! # Pull secrets as a set

A pull secret is nothing but its name, so sorted by name two lists of them are equal exactly if one is the
other in some order. What the rule for pull secrets wants are the desired ones, as often as they are given, and
once each of the others that the platform has added (`wantedSecrets_perm`). The same is wanted of an account that has
just that.
-/

namespace Reconciliation.ServiceAccount

theorem sorted_perm (references : List LocalObjectReference) : (sorted references).Perm references :=
  List.mergeSort_perm _ _

/-- References that are the same in some order are the same when they are sorted. -/
theorem sorted_eq_iff {first second : List LocalObjectReference} :
    sorted first = sorted second ↔ first.Perm second :=
  mergeSort_name_eq_iff fun _ _ _ _ same => congrArg LocalObjectReference.mk same

/-- To add by name is to add unless it is there. -/
theorem addByName_eq_ite (references : List LocalObjectReference) (reference : LocalObjectReference) :
    addByName references reference = if reference ∈ references then references else references ++ [reference] := by
  have named : references.any (·.name == reference.name) = true ↔ reference ∈ references := by
    rw [List.any_eq_true]
    constructor
    · rintro ⟨⟨name⟩, within, same⟩
      obtain rfl : name = reference.name := beq_iff_eq.mp same
      exact within
    · exact fun within => ⟨reference, within, beq_self_eq_true _⟩
  simp only [addByName, named]

/-- What is there stays as often as it is there, and what is new is added once. -/
theorem count_foldl_addByName (start additions : List LocalObjectReference) (reference : LocalObjectReference) :
    (additions.foldl addByName start).count reference =
      if reference ∈ start then start.count reference else if reference ∈ additions then 1 else 0 := by
  induction additions generalizing start with
  | nil =>
    split
    · rfl
    · next absent => exact List.count_eq_zero.mpr absent
  | cons first rest ih =>
    rw [List.foldl_cons, ih, addByName_eq_ite]
    by_cases same : reference = first
    · subst same
      by_cases known : reference ∈ start
      · simp [known]
      · simp [known, List.count_eq_zero.mpr known]
    · by_cases known : first ∈ start
      · simp [known, same]
      · simp [known, same, Ne.symm same, List.count_append]

theorem mem_foldl_addByName_iff {start additions : List LocalObjectReference} {reference : LocalObjectReference} :
    reference ∈ additions.foldl addByName start ↔ reference ∈ start ∨ reference ∈ additions := by
  rw [← List.count_pos_iff, count_foldl_addByName]
  by_cases known : reference ∈ start
  · simp [known, List.count_pos_iff]
  · by_cases added : reference ∈ additions <;> simp [known, added]

/-- The pull secrets of an account; an absent list is an empty one. -/
def pullSecrets (account : Object ServiceAccount) : List LocalObjectReference :=
  account.content.imagePullSecrets.getD []

/-- What the pull secrets of an account are to become. -/
def wantedSecrets (existing desired : Object ServiceAccount) : List LocalObjectReference :=
  ((pullSecrets existing).filter (isInjected existing.nameAny)).foldl addByName (pullSecrets desired)

theorem followPullSecrets_eq_ite (existing desired : Object ServiceAccount) :
    followPullSecrets existing desired =
      if sorted (pullSecrets existing) = sorted (wantedSecrets existing desired) then .keep existing
      else
        ⟨existing.withContent
          { existing.content with imagePullSecrets := some (sorted (wantedSecrets existing desired)) }, true⟩ := rfl

variable {existing desired after : Object ServiceAccount}

/-- There is no work exactly if the pull secrets are the wanted ones, in some order. -/
theorem changed_followPullSecrets_eq_false_iff :
    (followPullSecrets existing desired).changed = false ↔
      (pullSecrets existing).Perm (wantedSecrets existing desired) := by
  rw [followPullSecrets_eq_ite, ← sorted_eq_iff]
  split
  · next same => simp [same]
  · next different => simp [different]

/-- Of an account that has what is wanted, in some order, the same is wanted again. -/
theorem wantedSecrets_again (sameName : after.nameAny = existing.nameAny)
    (follows : (pullSecrets after).Perm (wantedSecrets existing desired)) :
    (wantedSecrets after desired).Perm (wantedSecrets existing desired) := by
  refine List.perm_iff_count.mpr fun reference => ?_
  rw [wantedSecrets, wantedSecrets, count_foldl_addByName, count_foldl_addByName]
  by_cases wanted : reference ∈ pullSecrets desired
  · rw [if_pos wanted, if_pos wanted]
  · have listed : reference ∈ pullSecrets after ↔
        reference ∈ (pullSecrets existing).filter (isInjected existing.nameAny) := by
      rw [follows.mem_iff, wantedSecrets, mem_foldl_addByName_iff, or_iff_right wanted]
    simp only [if_neg wanted, List.mem_filter, listed, sameName, and_self_right]

/-- The rule has no work left once it has succeeded. -/
theorem Rule.lawful (rule : Rule) : rule.mutate.Lawful := by
  intro desired existing _
  cases rule with
  | imagePullSecrets =>
    have again : (followPullSecrets (followPullSecrets existing desired).value desired).changed = false := by
      by_cases same : sorted (pullSecrets existing) = sorted (wantedSecrets existing desired)
      · rw [followPullSecrets_eq_ite existing, if_pos same, Edit.value_keep]
        exact changed_followPullSecrets_eq_false_iff.mpr (sorted_eq_iff.mp same)
      · rw [followPullSecrets_eq_ite existing, if_neg same]
        let after := existing.withContent
          { existing.content with imagePullSecrets := some (sorted (wantedSecrets existing desired)) }
        have follows : (pullSecrets after).Perm (wantedSecrets existing desired) := sorted_perm _
        have once_more : (wantedSecrets after desired).Perm (wantedSecrets existing desired) :=
          wantedSecrets_again rfl follows
        exact changed_followPullSecrets_eq_false_iff.mpr (follows.trans once_more.symm)
    exact congrArg Except.ok again

section Contents

/-- Names that the platform gives to the secrets of an account. -/
def IsPlatformName (account name : String) : Prop :=
  ∃ suffix, name = account ++ "-dockercfg-" ++ suffix ∨ name = account ++ "-token-" ++ suffix

theorem isPrefixOf_iff {start text : String} : start.isPrefixOf text = true ↔ ∃ suffix, text = start ++ suffix := by
  rw [String.isPrefixOf, String.startsWith_string_iff]
  constructor
  · rintro ⟨suffix, same⟩
    exact ⟨String.ofList suffix, String.toList_inj.mp (by simp [← same])⟩
  · rintro ⟨suffix, rfl⟩
    exact ⟨suffix.toList, by simp⟩

theorem isInjected_iff {account : String} {reference : LocalObjectReference} :
    isInjected account reference = true ↔ IsPlatformName account reference.name := by
  rw [isInjected, Bool.or_eq_true, isPrefixOf_iff, isPrefixOf_iff, IsPlatformName, exists_or]

/-- The names of the pull secrets of an account. -/
def secretNames (account : Object ServiceAccount) : List String := (pullSecrets account).map (·.name)

/-- The pull secrets that the platform has added and that are not desired, each of them once. -/
def protectedSecrets (existing desired : Object ServiceAccount) : List LocalObjectReference :=
  (((pullSecrets existing).filter (isInjected existing.nameAny)).filter (· ∉ pullSecrets desired)).dedup

/-- The wanted secrets are the desired ones and those that are protected. -/
theorem wantedSecrets_perm (existing desired : Object ServiceAccount) :
    (wantedSecrets existing desired).Perm (pullSecrets desired ++ protectedSecrets existing desired) := by
  refine List.perm_iff_count.mpr fun reference => ?_
  rw [wantedSecrets, count_foldl_addByName, List.count_append, protectedSecrets, List.count_dedup]
  by_cases wanted : reference ∈ pullSecrets desired
  · simp [wanted]
  · simp [wanted, List.count_eq_zero.mpr wanted]

/-- Afterwards the secrets are the wanted ones, whether or not there was something to do. -/
theorem pullSecrets_followPullSecrets_perm (existing desired : Object ServiceAccount) :
    (pullSecrets (followPullSecrets existing desired).value).Perm (wantedSecrets existing desired) := by
  rw [followPullSecrets_eq_ite]
  split
  · next same => exact sorted_eq_iff.mp same
  · exact sorted_perm _

/-- Nothing but the pull secrets changes. -/
theorem followPullSecrets_spares (existing desired : Object ServiceAccount) :
    ∃ secrets, (followPullSecrets existing desired).value =
      existing.withContent { existing.content with imagePullSecrets := secrets } := by
  rw [followPullSecrets_eq_ite]
  split
  · exact ⟨existing.content.imagePullSecrets, rfl⟩
  · exact ⟨_, rfl⟩

theorem followPullSecrets_of_unchanged (unchanged : (followPullSecrets existing desired).changed = false) :
    followPullSecrets existing desired = .keep existing := by
  rw [followPullSecrets_eq_ite]
  exact if_pos (sorted_eq_iff.mpr (changed_followPullSecrets_eq_false_iff.mp unchanged))

theorem mem_secretNames_iff {account : Object ServiceAccount} {name : String} :
    name ∈ secretNames account ↔ ⟨name⟩ ∈ pullSecrets account := by
  rw [secretNames, List.mem_map]
  constructor
  · rintro ⟨⟨_⟩, listed, rfl⟩
    exact listed
  · exact fun listed => ⟨⟨name⟩, listed, rfl⟩

theorem mem_secretNames_of_perm (follows : (pullSecrets after).Perm (wantedSecrets existing desired)) {name : String} :
    name ∈ secretNames after ↔
      name ∈ secretNames desired ∨ name ∈ secretNames existing ∧ IsPlatformName existing.nameAny name := by
  rw [mem_secretNames_iff, mem_secretNames_iff, mem_secretNames_iff, follows.mem_iff, wantedSecrets,
    mem_foldl_addByName_iff, List.mem_filter, isInjected_iff]

/-- The names of the pull secrets become the desired ones, and those that the platform has added stay. Nothing is
reported and nothing done exactly if the secrets are, in some order, the desired ones and once each of the others that
are protected. Nothing else in the account changes, and a second run has nothing to do. -/
theorem pull_secrets_follow_as_set (existing desired : Object ServiceAccount) :
    let mutation := Rule.imagePullSecrets.mutate existing desired
    let after := mutation.object
    mutation.Succeeds ∧
      (∀ name, name ∈ secretNames after ↔
        name ∈ secretNames desired ∨ name ∈ secretNames existing ∧ IsPlatformName existing.nameAny name) ∧
      (mutation.outcome = .ok false ↔
        (pullSecrets existing).Perm (pullSecrets desired ++ protectedSecrets existing desired)) ∧
      (after = existing ↔
        (pullSecrets existing).Perm (pullSecrets desired ++ protectedSecrets existing desired)) ∧
      (∃ secrets, after = existing.withContent { existing.content with imagePullSecrets := secrets }) ∧
      Rule.imagePullSecrets.mutate after desired = .done (.keep after) := by
  intro mutation after
  have wanted := wantedSecrets_perm existing desired
  have follows : (pullSecrets after).Perm (wantedSecrets existing desired) :=
    pullSecrets_followPullSecrets_perm existing desired
  have idle : (followPullSecrets existing desired).changed = false ↔
      (pullSecrets existing).Perm (pullSecrets desired ++ protectedSecrets existing desired) := by
    rw [changed_followPullSecrets_eq_false_iff]
    exact ⟨fun same => same.trans wanted, fun same => same.trans wanted.symm⟩
  have again : (followPullSecrets after desired).changed = false :=
    Except.ok.inj (Rule.imagePullSecrets.lawful desired existing ⟨_, rfl⟩)
  refine ⟨⟨_, rfl⟩, fun name => mem_secretNames_of_perm follows, ?_, ?_, followPullSecrets_spares existing desired, ?_⟩
  · rw [← idle]
    exact ⟨Except.ok.inj, congrArg Except.ok⟩
  · constructor
    · intro same
      rw [same] at follows
      exact follows.trans wanted
    · exact fun same => congrArg Edit.value (followPullSecrets_of_unchanged (idle.mpr same))
  · exact congrArg Mutation.done (followPullSecrets_of_unchanged again)

end Contents

end Reconciliation.ServiceAccount
