import Reconciliation.Proofs.ExactReports
import Reconciliation.Proofs.KindLaws
import Reconciliation.Proofs.PullSecrets

/-! # Reports of mutators

A mutator reports a change exactly if one of the rules that it runs has changed the object that it was given. The
object as a whole need not be another one then: what one member of a chain has changed a later one can change back.
What is not reported are structures that are created on the way to a field, and rules whose wishes are not even
satisfied by themselves report changes that are none.
-/

namespace Reconciliation

open Edit (Truthful)

theorem ConfigMap.Rule.truthful (rule : Rule) (existing desired : Object ConfigMap) :
    (rule.mutate existing desired).Truthful True True existing := by
  cases rule with
  | data => exact .ofContent (.part ConfigMap.data (.replace _ _) (fun _ => rfl) fun _ => rfl)
  | dataDefaults => exact .ofContent (.part ConfigMap.data (Merge.truthful_addMissing _ _) (fun _ => rfl) fun _ => rfl)
  | immutable => exact .ofContent (.part ConfigMap.immutable (.replace _ _) (fun _ => rfl) fun _ => rfl)

theorem Role.Rule.truthful (rule : Rule) (existing desired : Object Role) :
    (rule.mutate existing desired).Truthful True True existing := by
  cases rule with
  | rules => exact .ofContent (.part Role.rules (.replace _ _) (fun _ => rfl) fun _ => rfl)

theorem RoleBinding.Rule.truthful (rule : Rule) (existing desired : Object RoleBinding) :
    (rule.mutate existing desired).Truthful True True existing := by
  cases rule with
  | subjects => exact .ofContent (.part RoleBinding.subjects (.replace _ _) (fun _ => rfl) fun _ => rfl)
  | roleRef => exact .ofContent (.part RoleBinding.roleRef (.replace _ _) (fun _ => rfl) fun _ => rfl)

namespace Service

theorem eq_of_spec {service : Service} (present : service.spec.isSome = true) :
    { spec := some service.specOrDefault } = service := by
  obtain ⟨_ | spec⟩ := service
  · cases present
  · rfl

theorem Rule.truthful (rule : Rule) (existing desired : Object Service) :
    (rule.mutate existing desired).Truthful (existing.content.spec.isSome = true) True existing := by
  cases rule with
  | ports =>
    exact .ofContent (.part (fun service => service.specOrDefault.ports) (.replace _ _) (fun _ => rfl) eq_of_spec)
  | selector =>
    exact .ofContent (.part (fun service => service.specOrDefault.selector) (.replace _ _) (fun _ => rfl) eq_of_spec)

end Service

theorem PodDisruptionBudget.Rule.truthful (rule : Rule) (existing desired : Object PodDisruptionBudget) :
    (rule.mutate existing desired).Truthful (existing.content.spec.isSome = true) True existing := by
  cases rule with
  | spec =>
    refine .ofContent (.of_again (followSpec · desired.content) (fun present unchanged => ?_) (by simp [followSpec]))
    obtain ⟨metadata, _ | spec⟩ := existing
    · cases present
    · simp [followSpec] at unchanged
      simp [followSpec, ← unchanged]

theorem HorizontalPodAutoscaler.Rule.truthful (rule : Rule) (existing desired : Object HorizontalPodAutoscaler) :
    (rule.mutate existing desired).Truthful (existing.content.spec.isSome = true) True existing := by
  cases rule with
  | spec =>
    refine .ofContent (.of_again (followSpec · desired.content) (fun present unchanged => ?_) (by simp [followSpec]))
    obtain ⟨metadata, _ | spec⟩ := existing
    · cases present
    · simp [followSpec] at unchanged
      simp [followSpec, ← unchanged]

theorem SpecRule.truthful {α : Type} [DecidableEq α] (rule : SpecRule) (existing desired : Object α) :
    (rule.mutate existing desired).Truthful True True existing := by
  cases rule with
  | spec => exact .ofContent (.replace _ _)

namespace Secret

theorem truthful_addMissing (existing desired : Secret) : (addMissing existing desired).Truthful True existing := by
  refine Truthful.foldl (fun entry secret unchanged => addText_of_unchanged unchanged) (fun entry _ secret => ?_)
    (fun entry _ other _ secret present => ?_) existing
  · refine addText_eq_keep_iff.mpr ?_
    rw [addText]
    split
    · next present => exact present
    · rw [value?_setText_self]
      rfl
  · refine addText_eq_keep_iff.mpr ?_
    have there := addText_eq_keep_iff.mp present
    rw [addText]
    split
    · exact there
    · exact isSome_value?_setText there

theorem Rule.truthful (rule : Rule) (existing desired : Object Secret) :
    (rule.mutate existing desired).Truthful True True existing := by
  cases rule with
  | defaultsOnly => exact .ofContent (truthful_addMissing _ _)
  | key name =>
    refine .ofContent (.ite (fun _ => .keep _) fun different => .of_ne fun same => different ?_)
    have wanted := congrArg (·.value? name) same
    exact wanted.symm.trans (value?_setText_self ..)
  | stringData =>
    refine .ofContent (.ite (fun _ => .keep _) fun different => .of_ne fun same => different ?_)
    have wanted := values_followTexts existing.content desired.content
    rw [followTexts, if_neg different] at wanted
    exact (congrArg values same).symm.trans wanted

end Secret

namespace ServiceAccount

theorem sorted_sorted (references : List LocalObjectReference) : sorted (sorted references) = sorted references :=
  sorted_eq_iff.mpr (sorted_perm references)

theorem Rule.truthful (rule : Rule) (existing desired : Object ServiceAccount) :
    (rule.mutate existing desired).Truthful True True existing := by
  cases rule with
  | imagePullSecrets =>
    refine .done (.ite (fun _ => .keep _) fun different => .of_ne fun same => different ?_)
    have listed := congrArg (fun account : Object ServiceAccount => account.content.imagePullSecrets.getD []) same
    exact (congrArg sorted listed).symm.trans (sorted_sorted _)

end ServiceAccount

namespace ImageStream

/-- A merged tag agrees with the first one of its name. -/
theorem find?_mergeTag_self (wanted : TagReference) (tags : List TagReference) :
    ∃ tag, (mergeTag wanted tags).value.find? (·.name = wanted.name) = some tag ∧ Agree tag wanted := by
  induction tags with
  | nil => exact ⟨wanted, by simp [mergeTag], rfl, rfl⟩
  | cons tag rest ih =>
    simp only [mergeTag]
    split
    · next named => exact ⟨(editTag tag wanted).value, by simp [editTag, named], by simp [Agree, editTag]⟩
    · next other => simpa [List.find?_cons, other] using ih

theorem find?_mergeTag_of_ne {wanted : TagReference} {name : String} (different : wanted.name ≠ name)
    (tags : List TagReference) :
    (mergeTag wanted tags).value.find? (·.name = name) = tags.find? (·.name = name) := by
  induction tags with
  | nil => simp [mergeTag, different]
  | cons tag rest ih =>
    simp only [mergeTag]
    split
    · next named => simp [editTag, named, different]
    · next other => simp only [Edit.value_map, List.find?_cons, ih]

theorem Rule.truthful (rule : Rule) (existing desired : Object ImageStream) :
    (rule.mutate existing desired).Truthful True (rule.Accepts desired.content) existing := by
  cases rule with
  | tags =>
    refine .of_still (fun _ quiet => ?_) fun accepts => ?_
    · have kept := (Edit.changed_foldl_eq_false_iff fun wanted tags => mergeTag_of_unchanged).mp (Except.ok.inj quiet)
      simp only [Rule.mutate, Mutate.ofContentEdit, Mutate.ofEdit, followTags, Edit.foldl_eq_keep kept]
      rfl
    have merged : (desired.content.spec.tags.foldl (fun edit wanted => Edit.bind edit (mergeTag wanted))
        (Edit.keep existing.content.spec.tags)).Truthful True existing.content.spec.tags := by
      refine .foldl (fun wanted tags => mergeTag_of_unchanged) (fun wanted _ tags => ?_)
        (fun wanted within other among tags kept => ?_) _
      · exact mergeTag_eq_keep_iff.mpr (find?_mergeTag_self wanted tags)
      · refine mergeTag_eq_keep_iff.mpr ?_
        by_cases named : wanted.name = other.name
        · obtain ⟨tag, found, agrees⟩ := find?_mergeTag_self wanted tags
          have both := accepts wanted within other among named
          exact ⟨tag, named ▸ found, agrees.1.trans both.1, agrees.2.trans both.2⟩
        · rw [find?_mergeTag_of_ne named]
          exact mergeTag_eq_keep_iff.mp kept
    exact .ofContent (.part (fun stream : ImageStream => stream.spec.tags) merged (fun _ => rfl) fun _ => rfl)

end ImageStream

namespace Kind

/-- What a rule creates without a report is there. -/
def Finds : (kind : Kind) → kind.Rule → kind.Content → kind.Content → Prop
  | deployment, rule, existing, desired => Deployment.Rule.Finds rule existing desired
  | horizontalPodAutoscaler, _, existing, _ => (HorizontalPodAutoscaler.spec existing).isSome = true
  | podDisruptionBudget, _, existing, _ => (PodDisruptionBudget.spec existing).isSome = true
  | service, _, existing, _ => (Service.spec existing).isSome = true
  | _, _, _, _ => True

/-- What a rule makes of the desired content is clear: resources are the same as themselves, and tags of one name
agree. -/
def Definite : (kind : Kind) → kind.Rule → kind.Content → Prop
  | deployment, rule, desired => Deployment.Rule.Definite rule desired
  | imageStream, rule, desired => ImageStream.Rule.Accepts rule desired
  | _, _, _ => True

/-- The reports of rules are true. -/
theorem truthful_applyRule (kind : Kind) (rule : kind.Rule) (existing desired : kind.Object) :
    (kind.applyRule rule existing desired).Truthful (kind.Finds rule existing.content desired.content)
      (kind.Definite rule desired.content) existing := by
  cases kind with
  | configMap => exact ConfigMap.Rule.truthful rule existing desired
  | deployment => exact Deployment.Rule.truthful rule existing desired
  | horizontalPodAutoscaler => exact HorizontalPodAutoscaler.Rule.truthful rule existing desired
  | imageStream => exact ImageStream.Rule.truthful rule existing desired
  | podDisruptionBudget => exact PodDisruptionBudget.Rule.truthful rule existing desired
  | role => exact Role.Rule.truthful rule existing desired
  | roleBinding => exact RoleBinding.Rule.truthful rule existing desired
  | secret => exact Secret.Rule.truthful rule existing desired
  | service => exact Service.Rule.truthful rule existing desired
  | serviceAccount => exact ServiceAccount.Rule.truthful rule existing desired
  | grafanaDashboard | podMonitor | prometheusRule | serviceMonitor => exact SpecRule.truthful rule existing desired
  | appStack | persistentVolumeClaim | route => exact rule.elim

end Kind

namespace Mutator

variable {kind : Kind} {existing desired : kind.Object}

/-- The rule is what the mutator does, or part of it. -/
inductive Governs (governed : kind.Rule) : Mutator kind → Prop
  | rule : Governs governed (.rule governed)
  | member {members : List (Mutator kind)} {member : Mutator kind} (within : member ∈ members)
      (governs : Governs governed member) : Governs governed (.chain members)

/-- A rule that the mutator runs leaves another object than it was given. The members of a chain are given what the
ones before them have left. -/
inductive Alters (desired : kind.Object) : Mutator kind → kind.Object → Prop
  | rule {governed : kind.Rule} {existing : kind.Object}
      (moved : (kind.applyRule governed existing desired).object ≠ existing) : Alters desired (.rule governed) existing
  | member {before after : List (Mutator kind)} {member : Mutator kind} {existing : kind.Object}
      (reached : (Mutate.chain (before.map mutate) existing desired).Succeeds)
      (alters : Alters desired member (Mutate.chain (before.map mutate) existing desired).object) :
      Alters desired (.chain (before ++ member :: after)) existing

/-- A chain that reports a change has reached a member that does. -/
theorem exists_reporting_member {members : List (Mutator kind)}
    (changed : (Mutate.chain (members.map mutate) existing desired).outcome = .ok true) :
    ∃ before member after, members = before ++ member :: after ∧
      (Mutate.chain (before.map mutate) existing desired).Succeeds ∧
      (member.mutate (Mutate.chain (before.map mutate) existing desired).object desired).outcome = .ok true := by
  induction members generalizing existing with
  | nil => cases changed
  | cons first rest ih =>
    rw [List.map_cons, Mutate.chain_cons] at changed
    cases here : (first.mutate existing desired).outcome with
    | error failure =>
      rw [Mutation.andThen_of_error here, here] at changed
      cases changed
    | ok reported =>
      cases reported with
      | true => exact ⟨[], first, rest, rfl, ⟨false, rfl⟩, here⟩
      | false =>
        rw [Mutation.andThen_of_ok here] at changed
        have later : (Mutate.chain (rest.map mutate) (first.mutate existing desired).object desired).outcome =
            .ok true := by
          revert changed
          cases (Mutate.chain (rest.map mutate) (first.mutate existing desired).object desired).outcome <;>
            simp [Except.map]
        obtain ⟨before, member, after, rfl, reached, reports⟩ := ih later
        refine ⟨first :: before, member, after, rfl, Mutate.succeeds_chain_cons_iff.mpr ⟨⟨false, here⟩, reached⟩, ?_⟩
        rwa [List.map_cons, Mutate.object_chain_cons ⟨false, here⟩]

/-- A mutator that finds what its rules create leaves an object as it is if it reports no change. -/
theorem object_of_quiet {mutator : Mutator kind} (quiet : mutator.mutate.Quiet desired existing)
    (finds : ∀ rule, Governs rule mutator → kind.Finds rule existing.content desired.content) :
    (mutator.mutate existing desired).object = existing := by
  induction mutator using induct generalizing existing with
  | createOnly => rfl
  | refuse reason => rfl
  | rule governed =>
    simp only [mutate] at quiet ⊢
    exact (kind.truthful_applyRule governed existing desired).still (finds governed .rule) quiet
  | chain members ih =>
    rw [mutate_chain] at quiet ⊢
    induction members generalizing existing with
    | nil => rfl
    | cons first rest later =>
      obtain ⟨here, quiet⟩ := Mutate.quiet_chain_cons_iff.mp quiet
      obtain ⟨head, tail⟩ := List.forall_mem_cons.mp ih
      have kept := head here fun rule governs => finds rule (.member List.mem_cons_self governs)
      rw [kept] at quiet
      rw [List.map_cons, Mutate.object_chain_cons here.succeeds, kept]
      refine later tail quiet fun rule governs => ?_
      cases governs with
      | member within governs => exact finds rule (.member (List.mem_cons_of_mem _ within) governs)

/-- A mutator that is clear about the desired object alters something if it reports a change. -/
theorem alters_of_changed {mutator : Mutator kind} (changed : (mutator.mutate existing desired).outcome = .ok true)
    (definite : ∀ rule, Governs rule mutator → kind.Definite rule desired.content) :
    Alters desired mutator existing := by
  induction mutator using induct generalizing existing with
  | createOnly => cases changed
  | refuse reason => cases changed
  | rule governed =>
    simp only [mutate] at changed
    exact .rule ((kind.truthful_applyRule governed existing desired).moved (definite governed .rule) changed)
  | chain members ih =>
    rw [mutate_chain] at changed
    obtain ⟨before, member, after, rfl, reached, reports⟩ := exists_reporting_member changed
    have within : member ∈ before ++ member :: after := List.mem_append_right _ List.mem_cons_self
    exact .member reached (ih member within reports fun rule governs => definite rule (.member within governs))

/-- What a mutator reports is what its rules have done. If it reports no change, the object is the one that it was
given, as far as what its rules create on their way was there. If it reports a change, one of the rules that it has run
has left another object than it was given, as far as all of them are clear about what is desired; and if the mutator
then keeps its contract, which is to report no change again, the object as a whole is another one. -/
theorem reports_what_rules_do (mutator : Mutator kind) {existing desired : kind.Object} {changed : Bool}
    (outcome : (mutator.mutate existing desired).outcome = .ok changed) :
    (changed = false → (∀ rule, Governs rule mutator → kind.Finds rule existing.content desired.content) →
      (mutator.mutate existing desired).object = existing) ∧
    (changed = true → (∀ rule, Governs rule mutator → kind.Definite rule desired.content) →
      Alters desired mutator existing) ∧
    (changed = true → mutator.mutate.Quiet desired (mutator.mutate existing desired).object →
      (mutator.mutate existing desired).object ≠ existing) := by
  refine ⟨?still, ?moved, ?settled⟩
  case still =>
    rintro rfl finds
    exact object_of_quiet outcome finds
  case moved =>
    rintro rfl definite
    exact alters_of_changed outcome definite
  case settled =>
    rintro rfl quiet same
    rw [same] at quiet
    cases outcome.symm.trans quiet

/-- A service with one port. -/
def servicePort (port : Int32) : Object Service := ⟨{}, { spec := some { ports := some [{ port }] } }⟩

/-- The rules for ports and selectors report that they make a service follow another one, and that there is nothing
left to do for one that is as desired. -/
theorem reports_what_rules_do_of_ports :
    let mutator := Mutator.chain [@Mutator.rule .service .ports, @Mutator.rule .service .selector]
    @Alters .service (servicePort 8080) mutator (servicePort 80) ∧
      (mutator.mutate (servicePort 80) (servicePort 8080)).object ≠ servicePort 80 ∧
      (mutator.mutate (servicePort 8080) (servicePort 8080)).object = servicePort 8080 := by
  intro mutator
  have changed : (mutator.mutate (servicePort 80) (servicePort 8080)).outcome = .ok true := rfl
  have unchanged : (mutator.mutate (servicePort 8080) (servicePort 8080)).outcome = .ok false := rfl
  obtain ⟨-, alters, moved⟩ := reports_what_rules_do mutator changed
  exact ⟨alters rfl fun _ _ => trivial, moved rfl rfl, (reports_what_rules_do mutator unchanged).1 rfl fun _ _ => rfl⟩

/-- An image stream whose only tag is given with these policies. -/
def latestTags (policies : List TagImportPolicy) : Object ImageStream :=
  ⟨{}, { spec := { tags := policies.map fun policy => { name := "latest", importPolicy := some policy } } }⟩

/-- A deployment of one container with an infinite limit. -/
def limitless : Object Deployment :=
  Deployment.ofPods
    { containers := [{ name := "web", resources := some { limits := some (.ofList [("cpu", "1e400")]) } }] }

/-- Reports can differ from what happens to the object as a whole. A key of a secret is set to an empty text and then
removed with all others. A specification is created for a strategy that is absent. A tag that is desired in two ways is
changed back and forth. And an infinite quantity is set anew. -/
theorem reports_apart_from_effects :
    (let secret : Object Secret := ⟨{}, { stringData := some .empty }⟩
     let run := (Mutator.chain [@Mutator.rule .secret (.key "token"), @Mutator.rule .secret .stringData]).mutate
       secret ⟨{}, {}⟩
     run.outcome = .ok true ∧ run.object = secret) ∧
    (let run := (@Mutator.rule .deployment .strategy).mutate ⟨{}, {}⟩ ⟨{}, {}⟩
     run.outcome = .ok false ∧ run.object ≠ ⟨{}, {}⟩) ∧
    (let stream := latestTags [{ scheduled := some true }]
     let run := (@Mutator.rule .imageStream .tags).mutate stream
       (latestTags [{ scheduled := some false }, { scheduled := some true }])
     run.outcome = .ok true ∧ run.object = stream) ∧
    (let run := (@Mutator.rule .deployment .containerResources).mutate limitless limitless
     run.outcome = .ok true ∧ run.object = limitless) := by
  refine ⟨⟨rfl, rfl⟩, ⟨rfl, by decide⟩, ⟨rfl, rfl⟩, ?_⟩
  intro run
  -- the comparison of the two quantities is evaluated by itself
  have wanted : limitless.content.containers =
      [{ name := "web", resources := some { limits := some (.ofList [("cpu", "1e400")]) } }] := rfl
  have differs : ResourceRequirements.same (some { limits := some (.ofList [("cpu", "1e400")]) })
      (some { limits := some (.ofList [("cpu", "1e400")]) }) = false := by decide +kernel
  have mutated : run = ⟨limitless, .ok true⟩ := by
    simp only [run, mutate, Kind.applyRule, Deployment.mutate_containerResources_of_single wanted,
      Deployment.settleResources_of_single wanted, differs, Bool.false_eq_true, if_false]
    rfl
  exact ⟨congrArg Mutation.outcome mutated, congrArg Mutation.object mutated⟩

end Mutator

end Reconciliation
