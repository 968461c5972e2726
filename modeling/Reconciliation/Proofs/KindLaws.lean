import Reconciliation.Proofs.DeploymentSparing
import Reconciliation.Proofs.KindSettling

/-! # Which rules give work to others

Lawful rules of one kind leave each other's work alone, with two exceptions. Among the rules of deployments it is
the one for the images of init containers, which may add some whose volume mounts are then not in order. Among
those of secrets it is the rule for one key and the one for all texts: the first wants a value under its key even
if no text is desired there, and the second one wants no value then.
-/

namespace Reconciliation

namespace Secret

variable {secret existing desired : Secret} {name other value : String}

@[simp] theorem value?_setText_self (secret : Secret) (name value : String) :
    (secret.setText name value).value? name = some value := by
  simp [value?, setText, texts]

theorem value?_setText_of_ne (secret : Secret) (different : name ≠ other) (value : String) :
    (secret.setText name value).value? other = secret.value? other := by
  simp only [value?, setText, texts, stored, Option.getD_some, SortedMap.get?_insert_of_ne _ different]

theorem isSome_value?_setText (present : (secret.value? other).isSome = true) :
    ((secret.setText name value).value? other).isSome = true := by
  by_cases here : name = other
  · rw [here, value?_setText_self]
    rfl
  · rw [value?_setText_of_ne secret here]
    exact present

/-- Values that are there already are not touched. -/
theorem value?_addMissing (present : (existing.value? name).isSome = true) :
    (addMissing existing desired).value.value? name = existing.value? name := by
  have step (key text : String) (secret : Secret) (same : secret.value? name = existing.value? name) :
      (addText key text secret).value.value? name = existing.value? name := by
    rw [addText]
    split
    · exact same
    · next absent =>
      have elsewhere : key ≠ name := by
        rintro rfl
        rw [same] at absent
        exact absent present
      rw [value?_setText_of_ne secret elsewhere, same]
  refine Edit.foldl_keeps (fun secret : Secret => secret.value? name = existing.value? name) ?_ rfl
  intro entry _ secret same
  exact step entry.1 entry.2 secret same

theorem addText_eq_keep_iff : addText name value secret = .keep secret ↔ (secret.value? name).isSome = true := by
  rw [addText]
  split
  · next present => simp [present]
  · next absent => simp [absent, Edit.eq_keep_iff]

theorem addText_of_unchanged (unchanged : (addText name value secret).changed = false) :
    addText name value secret = .keep secret := by
  rw [addText] at unchanged ⊢
  split at unchanged
  · next present => rw [if_pos present]
  · cases unchanged

theorem addMissing_eq_keep
    (complete : ∀ key text, desired.texts.get? key = some text → (existing.value? key).isSome = true) :
    addMissing existing desired = .keep existing := by
  apply Edit.foldl_eq_keep
  rintro ⟨key, text⟩ member
  exact addText_eq_keep_iff.mpr (complete key text (SortedMap.mem_entries_iff.mp member))

theorem changed_addMissing_eq_false_iff :
    (addMissing existing desired).changed = false ↔
      ∀ key text, desired.texts.get? key = some text → (existing.value? key).isSome = true := by
  refine (Edit.changed_foldl_eq_false_iff fun (entry : String × String) secret =>
    @addText_of_unchanged secret entry.1 entry.2).trans ?_
  simp only [addText_eq_keep_iff, Prod.forall, SortedMap.mem_entries_iff]

theorem changed_followKey_eq_false_iff :
    (followKey name existing desired).changed = false ↔
      existing.value? name = some ((desired.texts.get? name).getD "") := by
  simp only [followKey]
  split
  · next same => simp [same]
  · next different => simp [different]

theorem changed_followTexts_eq_false_iff :
    (followTexts existing desired).changed = false ↔ existing.values = desired.texts := by
  simp only [followTexts]
  split
  · next same => simp [same]
  · next different => simp [different]

theorem values_followTexts (existing desired : Secret) :
    (followTexts existing desired).value.values = desired.texts := by
  simp only [followTexts]
  split
  · next same => exact same
  · apply SortedMap.ext_get?
    intro key
    rw [get?_values, value?]
    change (desired.texts.get? key).or none = _
    rw [Option.or_none]

/-- What a rule wants of the values of a secret. -/
def Rule.Wants : Rule → Secret → Secret → Prop
  | defaultsOnly, existing, desired =>
      ∀ key text, desired.texts.get? key = some text → (existing.value? key).isSome = true
  | key name, existing, desired => existing.value? name = some ((desired.texts.get? name).getD "")
  | stringData, existing, desired => existing.values = desired.texts

theorem Rule.succeeds (rule : Rule) (existing desired : Object Secret) : (rule.mutate existing desired).Succeeds := by
  cases rule with
  | defaultsOnly | key name | stringData => exact ⟨_, rfl⟩

/-- A rule has no work exactly if the values are as it wants them. -/
theorem Rule.quiet_iff {rule : Rule} {existing desired : Object Secret} :
    rule.mutate.Quiet desired existing ↔ rule.Wants existing.content desired.content := by
  have reports (edit : Edit (Object Secret)) : (Mutation.done edit).outcome = .ok false ↔ edit.changed = false :=
    ⟨Except.ok.inj, congrArg Except.ok⟩
  cases rule with
  | defaultsOnly => exact (reports _).trans changed_addMissing_eq_false_iff
  | key name => exact (reports _).trans changed_followKey_eq_false_iff
  | stringData => exact (reports _).trans changed_followTexts_eq_false_iff

/-- The two rules want different things where no text is desired. -/
def Clash (rule other : Rule) : Prop :=
  ∃ key, (rule = .key key ∧ other = .stringData) ∨ (rule = .stringData ∧ other = .key key)

theorem Rule.spares {rule other : Rule} (lawful : rule.mutate.Lawful) (apart : ¬ Clash rule other)
    (desired : Object Secret) : rule.mutate.Spares other.mutate desired := by
  by_cases same : rule = other
  · exact same ▸ (lawful desired).spares_self
  intro existing _ quiet
  have wants := quiet_iff.mp quiet
  refine quiet_iff.mpr ?_
  cases rule with
  | defaultsOnly =>
    cases other with
    | defaultsOnly => exact absurd rfl same
    | key name =>
      have present : (existing.content.value? name).isSome = true := by rw [wants]; rfl
      exact (value?_addMissing present).trans wants
    | stringData =>
      have kept : addMissing existing.content desired.content = .keep existing.content := by
        refine addMissing_eq_keep fun key text found => ?_
        rw [← get?_values, show existing.content.values = desired.content.texts from wants, found]
        rfl
      change (addMissing existing.content desired.content).value.values = _
      rw [kept]
      exact wants
  | key name =>
    cases other with
    | defaultsOnly =>
      intro other text found
      have present := wants other text found
      change ((followKey name existing.content desired.content).value.value? other).isSome = true
      rw [followKey]
      split
      · exact present
      · exact isSome_value?_setText present
    | key another =>
      have different : name ≠ another := fun equal => same (congrArg _ equal)
      change (followKey name existing.content desired.content).value.value? another = _
      rw [followKey]
      split
      · exact wants
      · exact (value?_setText_of_ne _ different _).trans wants
    | stringData => exact absurd ⟨name, .inl ⟨rfl, rfl⟩⟩ apart
  | stringData =>
    cases other with
    | defaultsOnly =>
      intro key text found
      change ((followTexts existing.content desired.content).value.value? key).isSome = true
      rw [← get?_values, values_followTexts, found]
      rfl
    | key name => exact absurd ⟨name, .inr ⟨rfl, rfl⟩⟩ apart
    | stringData => exact absurd rfl same

/-- A rule that has no work leaves a secret as it is. -/
theorem Rule.object_of_quiet {rule : Rule} {existing desired : Object Secret}
    (quiet : rule.mutate.Quiet desired existing) : (rule.mutate existing desired).object = existing := by
  have wants := quiet_iff.mp quiet
  cases rule with
  | defaultsOnly =>
    exact congrArg (fun edit : Edit Secret => existing.withContent edit.value) (addMissing_eq_keep wants)
  | key name =>
    have kept : followKey name existing.content desired.content = .keep existing.content := if_pos wants
    exact congrArg (fun edit : Edit Secret => existing.withContent edit.value) kept
  | stringData =>
    have kept : followTexts existing.content desired.content = .keep existing.content := if_pos wants
    exact congrArg (fun edit : Edit Secret => existing.withContent edit.value) kept

end Secret

theorem ConfigMap.Rule.spares {rule other : Rule} (lawful : rule.mutate.Lawful) (desired : Object ConfigMap) :
    rule.mutate.Spares other.mutate desired := by
  by_cases same : rule = other
  · exact same ▸ (lawful desired).spares_self
  intro existing _ quiet
  cases rule with
  | data =>
    cases other with
    | data => exact absurd rfl same
    | dataDefaults =>
      have complete := congrArg Edit.changed (Merge.addMissing_self desired.content.data)
      exact congrArg Except.ok complete
    | immutable => exact quiet
  | dataDefaults =>
    cases other with
    | data =>
      have follows : existing.content.data = desired.content.data := by
        simpa using (Except.ok.inj quiet : (Edit.replace existing.content.data desired.content.data).changed = false)
      have kept : (Merge.addMissing existing.content.data desired.content.data).value = desired.content.data := by
        rw [follows, Merge.addMissing_self, Edit.value_keep]
      exact congrArg Except.ok (by simpa using kept :
        (Edit.replace (Merge.addMissing existing.content.data desired.content.data).value
          desired.content.data).changed = false)
    | dataDefaults => exact absurd rfl same
    | immutable => exact quiet
  | immutable =>
    cases other with
    | immutable => exact absurd rfl same
    | data | dataDefaults => exact quiet

theorem Service.Rule.lawful (rule : Rule) : rule.mutate.Lawful := by
  intro desired
  cases rule with
  | ports | selector =>
    refine Mutate.settlesAt_ofContentEdit fun existing => ?_
    simp [followPorts, followSelector, specOrDefault]

theorem PodDisruptionBudget.Rule.lawful (rule : Rule) : rule.mutate.Lawful := by
  intro desired
  cases rule with
  | spec =>
    refine Mutate.settlesAt_ofContentEdit fun existing => ?_
    simp [followSpec]

theorem SpecRule.lawful {α : Type} [DecidableEq α] (rule : SpecRule) : (@SpecRule.mutate α _ rule).Lawful := by
  intro desired
  cases rule with
  | spec =>
    refine Mutate.settlesAt_ofContentEdit fun existing => ?_
    simp

theorem Service.Rule.spares {rule other : Rule} (lawful : rule.mutate.Lawful) (desired : Object Service) :
    rule.mutate.Spares other.mutate desired := by
  cases rule <;> cases other <;> first
    | exact (lawful desired).spares_self
    | exact fun _ _ quiet => quiet

theorem RoleBinding.Rule.spares {rule other : Rule} (lawful : rule.mutate.Lawful) (desired : Object RoleBinding) :
    rule.mutate.Spares other.mutate desired := by
  cases rule <;> cases other <;> first
    | exact (lawful desired).spares_self
    | exact fun _ _ quiet => quiet

namespace Kind

/-- The rules of which the first can give work to the second. -/
def Clash : (kind : Kind) → kind.Rule → kind.Rule → Prop
  | deployment, rule, other =>
      rule = Deployment.Rule.initContainerImages ∧ other = Deployment.Rule.initContainerVolumeMounts
  | secret, rule, other => Secret.Clash rule other
  | _, _, _ => False

/-- A lawful rule gives no work to another one with which it does not clash. -/
theorem spares_of_lawful {kind : Kind} {rule other : kind.Rule} (lawful : (kind.applyRule rule).Lawful)
    (others : (kind.applyRule other).Lawful) (apart : ¬ kind.Clash rule other) (desired : kind.Object) :
    (kind.applyRule rule).Spares (kind.applyRule other) desired := by
  cases kind with
  | configMap => exact ConfigMap.Rule.spares lawful desired
  | deployment =>
    refine Deployment.Rule.spares_of_isLawful (Deployment.Rule.lawful_iff.mp lawful)
      (Deployment.Rule.lawful_iff.mp others) (fun images mounts => apart ⟨images, mounts⟩) desired
  | roleBinding => exact RoleBinding.Rule.spares lawful desired
  | secret => exact Secret.Rule.spares lawful apart desired
  | service => exact Service.Rule.spares lawful desired
  | appStack | persistentVolumeClaim | route => exact rule.elim
  | _ =>
    cases rule
    cases other
    exact (lawful desired).spares_self

end Kind

end Reconciliation
