import Reconciliation.Proofs.KindLaws

/-! # Chains of lawful mutators

A chain of lawful mutators is lawful unless two of its members work against each other. For deployments the
images of init containers have to come before their volume mounts, unless all init containers are governed as a
whole; for secrets the texts as a whole and single keys exclude each other. This is not only enough but also
necessary: otherwise there are objects on which the chain reports a change again.
-/

namespace Reconciliation

namespace Mutator

/-- The mutators that the library offers: the one that does nothing, the rules of the kind, and for deployments
the chain of the rules for most of them. -/
inductive IsLibrary : {kind : Kind} → Mutator kind → Prop
  | createOnly {kind : Kind} : IsLibrary (@createOnly kind)
  | rule {kind : Kind} (governed : kind.Rule) : IsLibrary (.rule governed)
  | genericDeployment : IsLibrary genericDeployment

/-- An infinite quantity is set anew every time. -/
theorem not_lawful_genericDeployment : ¬ genericDeployment.mutate.Lawful := by
  intro lawful
  let limits : StringMap := .ofList [("cpu", "1e400")]
  let web : Container := { name := "web", resources := some { limits := some limits } }
  let deployment := Deployment.ofPods { containers := [web] }
  let once := genericDeployment.mutate deployment deployment
  have first : once.outcome.toOption = some true := by decide +kernel
  have again : (genericDeployment.mutate once.object deployment).outcome.toOption = some true := by decide +kernel
  have success : once.Succeeds := by
    cases outcome : once.outcome with
    | error failure =>
      rw [outcome] at first
      cases first
    | ok changed => exact ⟨changed, outcome⟩
  have quiet : (genericDeployment.mutate once.object deployment).outcome = .ok false :=
    lawful deployment deployment success
  rw [quiet] at again
  cases again

variable {kind : Kind}

theorem eq_of_lawful {member : Mutator kind} (library : member.IsLibrary) (lawful : member.mutate.Lawful) :
    member = .createOnly ∨ ∃ governed, member = .rule governed ∧ (kind.applyRule governed).Lawful := by
  cases library with
  | createOnly => exact .inl rfl
  | rule governed => exact .inr ⟨governed, rfl, by simpa only [mutate] using lawful⟩
  | genericDeployment => exact absurd lawful not_lawful_genericDeployment

/-- A lawful mutator of the library gives no work to another one unless they are rules that clash. -/
theorem spares_of_lawful {member other : Mutator kind} (library : member.IsLibrary) (lawful : member.mutate.Lawful)
    (libraryOther : other.IsLibrary) (lawfulOther : other.mutate.Lawful)
    (apart : ∀ rule governed, member = .rule rule → other = .rule governed → ¬ kind.Clash rule governed)
    (desired : kind.Object) : member.mutate.Spares other.mutate desired := by
  rcases eq_of_lawful library lawful with rfl | ⟨rule, rfl, settles⟩
  · simp only [mutate]
    exact Mutate.createOnly_spares other.mutate desired
  rcases eq_of_lawful libraryOther lawfulOther with rfl | ⟨governed, rfl, settlesOther⟩
  · simp only [mutate]
    exact Mutate.spares_createOnly _ desired
  · simp only [mutate]
    exact Kind.spares_of_lawful settles settlesOther (apart rule governed rfl rfl) desired

section Members

variable {members : List (Mutator kind)} (library : ∀ member ∈ members, member.IsLibrary)
  (lawful : ∀ member ∈ members, member.mutate.Lawful)

include library lawful

/-- A chain of lawful rules that do not clash is lawful. -/
theorem lawful_chain_of_no_clash
    (apart : ∀ rule other, Mutator.rule rule ∈ members → Mutator.rule other ∈ members → ¬ kind.Clash rule other) :
    (chain members).mutate.Lawful := by
  intro desired
  rw [mutate_chain]
  refine Mutate.settlesAt_chain_of_spares ?_ ?_
  · exact List.forall_mem_map.mpr fun member within => lawful member within desired
  · refine List.forall_mem_map.mpr fun member within => List.forall_mem_map.mpr fun other among => ?_
    refine spares_of_lawful (library member within) (lawful member within) (library other among) (lawful other among)
      ?_ desired
    rintro rule governed rfl rfl
    exact apart rule governed within among

end Members

end Mutator

namespace Deployment

/-- The rule for the images of init containers, as a mutator. -/
def imagesOfInitContainers : Mutator .deployment := @Mutator.rule .deployment .initContainerImages

/-- The rule for the volume mounts of init containers, as a mutator. -/
def mountsOfInitContainers : Mutator .deployment := @Mutator.rule .deployment .initContainerVolumeMounts

theorem images_ne_mounts : imagesOfInitContainers ≠ mountsOfInitContainers := by
  simp [imagesOfInitContainers, mountsOfInitContainers]

/-- The rule for init containers as a whole, as a mutator. -/
def wholeInitContainers : Mutator .deployment := @Mutator.rule .deployment .podInitContainers

theorem lawful_member {rule : Rule} (lawful : rule.IsLawful) : (@Mutator.rule .deployment rule).mutate.Lawful := by
  simp only [Mutator.mutate]
  exact Rule.lawful_of_isLawful lawful

section Enough

variable {members : List (Mutator .deployment)} (library : ∀ member ∈ members, member.IsLibrary)
  (lawful : ∀ member ∈ members, member.mutate.Lawful)

include library lawful

theorem spares_of_members {member other : Mutator .deployment} (within : member ∈ members) (among : other ∈ members)
    (apart : member = imagesOfInitContainers → other ≠ mountsOfInitContainers) (desired : Object Deployment) :
    member.mutate.Spares other.mutate desired := by
  refine Mutator.spares_of_lawful (library member within) (lawful member within) (library other among)
    (lawful other among) ?_ desired
  rintro rule governed rfl rfl ⟨rfl, rfl⟩
  exact apart rfl rfl

/-- Members that have no work leave each other in peace, also the two that clash. -/
theorem sparesIdly_of_members {member other : Mutator .deployment} (within : member ∈ members)
    (among : other ∈ members) (desired : Object Deployment) :
    member.mutate.SparesIdly other.mutate desired := by
  by_cases apart : member = imagesOfInitContainers → other ≠ mountsOfInitContainers
  · exact (spares_of_members library lawful within among apart desired).idly
  · simp only [Classical.not_imp, Classical.not_not] at apart
    obtain ⟨rfl, rfl⟩ := apart
    exact @Rule.sparesIdly_of_isLawful .initContainerImages .initContainerVolumeMounts trivial trivial desired

/-- At the end of a chain only the volume mounts of init containers can be out of order. -/
theorem quiet_after_members {member : Mutator .deployment} (within : member ∈ members)
    (other : member ≠ mountsOfInitContainers) {existing desired : Object Deployment}
    (success : (Mutate.chain (members.map Mutator.mutate) existing desired).Succeeds) :
    member.mutate.Quiet desired (Mutate.chain (members.map Mutator.mutate) existing desired).object := by
  obtain ⟨before, after, rfl⟩ := List.append_of_mem within
  rw [List.map_append, List.map_cons] at success ⊢
  refine Mutate.quiet_after_chain (lawful member within desired) ?_ success
  refine List.forall_mem_map.mpr fun later behind => ?_
  exact spares_of_members library lawful (List.mem_append_right _ (List.mem_cons_of_mem _ behind)) within
    (fun _ => other) desired

/-- The volume mounts are in order at the end if the images are in front of them: after both rules have run, none
of the later members has work for the images, and so nothing is added. -/
theorem quiet_mounts_of_ordered {before after : List (Mutator .deployment)}
    (split : members = before ++ mountsOfInitContainers :: after) (front : imagesOfInitContainers ∈ before)
    {existing desired : Object Deployment}
    (success : (Mutate.chain (members.map Mutator.mutate) existing desired).Succeeds) :
    mountsOfInitContainers.mutate.Quiet desired
      (Mutate.chain (members.map Mutator.mutate) existing desired).object := by
  subst split
  have images : imagesOfInitContainers ∈ before ++ mountsOfInitContainers :: after := List.mem_append_left _ front
  have mounts : mountsOfInitContainers ∈ before ++ mountsOfInitContainers :: after :=
    List.mem_append_right _ List.mem_cons_self
  rw [List.map_append, List.map_cons, Mutate.chain_append] at success ⊢
  obtain ⟨earlier, rest⟩ := Mutation.succeeds_andThen_iff.mp success
  obtain ⟨here, later⟩ := Mutate.succeeds_chain_cons_iff.mp rest
  rw [Mutation.object_andThen_of_succeeds earlier, Mutate.object_chain_cons here]
  have images_before := quiet_after_members
    (fun member within => library member (List.mem_append_left _ within))
    (fun member within => lawful member (List.mem_append_left _ within))
    front images_ne_mounts earlier
  have images_kept := spares_of_members library lawful mounts images (fun _ => images_ne_mounts) desired _ here
    images_before
  -- Both rules are quiet once the mounts have run, and each later member keeps both so.
  refine (Mutate.chain_keeps_of_succeeds
    (fun object => imagesOfInitContainers.mutate.Quiet desired object ∧
      mountsOfInitContainers.mutate.Quiet desired object)
    ?_ later ⟨images_kept, lawful _ mounts desired _ here⟩).2
  refine List.forall_mem_map.mpr fun member behind current quiet success => ?_
  have within : member ∈ before ++ mountsOfInitContainers :: after :=
    List.mem_append_right _ (List.mem_cons_of_mem _ behind)
  by_cases same : member = imagesOfInitContainers
  · subst same
    exact ⟨lawful _ images desired current success,
      sparesIdly_of_members library lawful images mounts desired current quiet.1 quiet.2⟩
  · have apart {other : Mutator .deployment} : member = imagesOfInitContainers → other ≠ mountsOfInitContainers :=
      fun wrong => absurd wrong same
    exact ⟨spares_of_members library lawful within images apart desired current success quiet.1,
      spares_of_members library lawful within mounts apart desired current success quiet.2⟩

/-- If all init containers are governed as a whole, their volume mounts are in order at the end. -/
theorem quiet_mounts_of_whole (whole : wholeInitContainers ∈ members) {existing desired : Object Deployment}
    (success : (Mutate.chain (members.map Mutator.mutate) existing desired).Succeeds) :
    mountsOfInitContainers.mutate.Quiet desired
      (Mutate.chain (members.map Mutator.mutate) existing desired).object := by
  have quiet := quiet_after_members library lawful whole (by simp [wholeInitContainers, mountsOfInitContainers]) success
  exact (@quiet_of_same_initContainers .initContainerVolumeMounts _ desired trivial (.head _)
    (quiet_podInitContainers_iff.mp quiet)).1

/-- A chain of lawful mutators is lawful if the images of init containers come before their volume mounts, or all
of the init containers are governed. -/
theorem lawful_chain_of_composable
    (composable : mountsOfInitContainers ∈ members → imagesOfInitContainers ∈ members →
      wholeInitContainers ∈ members ∨ [imagesOfInitContainers, mountsOfInitContainers].Sublist members) :
    (Mutator.chain members).mutate.Lawful := by
  by_cases clash : mountsOfInitContainers ∈ members ∧ imagesOfInitContainers ∈ members
  · obtain ⟨mounts, images⟩ := clash
    intro desired
    rw [Mutator.mutate_chain]
    refine Mutate.settlesAt_chain (fun existing success => ?_) ?_
    · refine List.forall_mem_map.mpr fun member within => ?_
      by_cases same : member = mountsOfInitContainers
      · subst same
        rcases composable mounts images with whole | ordered
        · exact quiet_mounts_of_whole library lawful whole success
        · obtain ⟨front, back, rfl, before, behind⟩ := List.cons_sublist_iff.mp ordered
          obtain ⟨middle, after, rfl⟩ := List.append_of_mem (List.singleton_sublist.mp behind)
          exact quiet_mounts_of_ordered library lawful (List.append_assoc ..).symm (List.mem_append_left _ before)
            success
      · exact quiet_after_members library lawful within same success
    · refine List.forall_mem_map.mpr fun member within => List.forall_mem_map.mpr fun other among => ?_
      exact sparesIdly_of_members library lawful within among desired
  · refine Mutator.lawful_chain_of_no_clash library lawful ?_
    rintro rule other first second ⟨rfl, rfl⟩
    exact clash ⟨second, first⟩

end Enough

section Needed

/-- There is one init container, and no other container. -/
def oneInitContainer : Object Deployment := ofPods { containers := [], initContainers := some [{ name := "init" }] }

/-- Two init containers are desired, and the first one is to have a volume. -/
def twoInitContainers : Object Deployment :=
  ofPods {
    containers := []
    initContainers := some
      [{ name := "init", volumeMounts := some [{ name := "data", mountPath := "/data" }] }, { name := "wait" }] }

/-- The init containers that the rule for images makes of the one: the second one is added. -/
def initContainersWithImages : List Container := [{ name := "init" }, { name := "wait" }]

/-- The deployment has some init containers, and no other container. -/
def HasInitContainers (wanted : List Container) (deployment : Object Deployment) : Prop :=
  deployment.content.containers = [] ∧ deployment.content.initContainers = wanted

/-- Most lawful rules succeed on a deployment without containers, and keep its init containers. The volume mounts of
these are left alone as long as there are not two of them. -/
theorem keeps_initContainers {rule : Rule} (lawful : rule.IsLawful) (images : rule ≠ .initContainerImages)
    (whole : rule ≠ .podInitContainers) {kept : List Container}
    (mounts : rule = .initContainerVolumeMounts → kept.length ≠ 2) {existing : Object Deployment}
    (has : HasInitContainers kept existing) :
    (rule.mutate existing twoInitContainers).Succeeds ∧
      HasInitContainers kept (rule.mutate existing twoInitContainers).object := by
  obtain ⟨none, rfl⟩ := has
  have counts : existing.content.containers.length = twoInitContainers.content.containers.length := by
    rw [none]
    rfl
  refine ⟨rule.succeeds_of_isLawful lawful counts, ?_, ?_⟩
  · rw [← List.length_eq_zero_iff, rule.length_containers_of_isLawful lawful, none, List.length_nil]
  by_cases idle : rule.IsIdle
  · exact (rule.mutate_of_isIdle idle existing _).2 .initContainers
  by_cases about : .initContainers ∈ rule.reads
  · rcases rule.eq_of_about_initContainers lawful idle about with rfl | rfl | rfl
    · exact absurd rfl whole
    · exact absurd rfl images
    · exact congrArg (fun edit : Edit Deployment => edit.value.initContainers) (if_neg (mounts rfl))
  · rw [← rule.writes_of_isLawful lawful] at about
    exact rule.read_mutate existing _ about

/-- The rule for the images of init containers adds the second one, and then leaves both as they are. -/
theorem images_adds {existing : Object Deployment}
    (has : HasInitContainers [{ name := "init" }] existing ∨ HasInitContainers initContainersWithImages existing) :
    (imagesOfInitContainers.mutate existing twoInitContainers).Succeeds ∧
      HasInitContainers initContainersWithImages (imagesOfInitContainers.mutate existing twoInitContainers).object := by
  have none : existing.content.containers = [] := has.elim And.left And.left
  have counts := @Rule.length_containers_of_isLawful .initContainerImages trivial existing twoInitContainers
  refine ⟨⟨_, rfl⟩, List.length_eq_zero_iff.mp (counts.trans (congrArg List.length none)), ?_⟩
  have wanted : twoInitContainers.content.initContainers.isEmpty = false := rfl
  change (followInitContainerImages existing.content twoInitContainers.content).value.initContainers = _
  rw [followInitContainerImages, wanted]
  rcases has with has | has <;> rw [has.2] <;> rfl

/-- There the volume mounts of init containers are out of order once there are two of these. -/
theorem not_quiet_mounts {existing : Object Deployment} (has : HasInitContainers initContainersWithImages existing) :
    ¬ mountsOfInitContainers.mutate.Quiet twoInitContainers existing := by
  intro quiet
  have counts : existing.content.initContainers.length = twoInitContainers.content.initContainers.length := by
    rw [has.2]
    rfl
  have unchanged : (editEqualInitContainers editVolumeMounts existing.content twoInitContainers.content).changed =
      false := Except.ok.inj quiet
  rw [editEqualInitContainers, if_pos counts, changed_editInitContainers, has.2] at unchanged
  cases unchanged

variable {members : List (Mutator .deployment)} (library : ∀ member ∈ members, member.IsLibrary)
  (lawful : ∀ member ∈ members, member.mutate.Lawful)

include library lawful

theorem member_keeps_initContainers {member : Mutator .deployment} (within : member ∈ members)
    (images : member ≠ imagesOfInitContainers) (whole : member ≠ wholeInitContainers) {kept : List Container}
    (mounts : member = mountsOfInitContainers → kept.length ≠ 2) {existing : Object Deployment}
    (has : HasInitContainers kept existing) :
    (member.mutate existing twoInitContainers).Succeeds ∧
      HasInitContainers kept (member.mutate existing twoInitContainers).object := by
  rcases Mutator.eq_of_lawful (library member within) (lawful member within) with rfl | ⟨rule, rfl, settles⟩
  · simp only [Mutator.mutate]
    exact ⟨⟨false, rfl⟩, has⟩
  · simp only [Mutator.mutate]
    refine keeps_initContainers (Rule.lawful_iff.mp settles) ?_ ?_ ?_ has
    · rintro rfl
      exact images rfl
    · rintro rfl
      exact whole rfl
    · rintro rfl
      exact mounts rfl

/-- A part of a chain without the rule for images keeps the init containers. -/
theorem chain_keeps_initContainers (whole : wholeInitContainers ∉ members) {part : List (Mutator .deployment)}
    (included : ∀ member ∈ part, member ∈ members) (images : imagesOfInitContainers ∉ part) {kept : List Container}
    (mounts : mountsOfInitContainers ∈ part → kept.length ≠ 2) {existing : Object Deployment}
    (has : HasInitContainers kept existing) :
    (Mutate.chain (part.map Mutator.mutate) existing twoInitContainers).Succeeds ∧
      HasInitContainers kept (Mutate.chain (part.map Mutator.mutate) existing twoInitContainers).object := by
  refine Mutate.succeeds_chain_of_keeps _ (List.forall_mem_map.mpr fun member within existing has => ?_) has
  have among := included member within
  refine member_keeps_initContainers library lawful among ?_ ?_ ?_ has
  · rintro rfl
    exact images within
  · rintro rfl
    exact whole among
  · rintro rfl
    exact mounts within

/-- A part of a chain without the rule for volume mounts keeps the two init containers once they are there. -/
theorem chain_keeps_two (whole : wholeInitContainers ∉ members) {part : List (Mutator .deployment)}
    (included : ∀ member ∈ part, member ∈ members) (mounts : mountsOfInitContainers ∉ part)
    {existing : Object Deployment} (has : HasInitContainers initContainersWithImages existing) :
    (Mutate.chain (part.map Mutator.mutate) existing twoInitContainers).Succeeds ∧
      HasInitContainers initContainersWithImages
        (Mutate.chain (part.map Mutator.mutate) existing twoInitContainers).object := by
  refine Mutate.succeeds_chain_of_keeps _ (List.forall_mem_map.mpr fun member within existing has => ?_) has
  by_cases same : member = imagesOfInitContainers
  · exact same ▸ images_adds (.inr has)
  have among := included member within
  refine member_keeps_initContainers library lawful among same ?_ ?_ has
  · rintro rfl
    exact whole among
  · rintro rfl
    exact absurd within mounts

/-- If all volume mounts of init containers are governed before their images are, and not all of the init containers
are, an init container that is added keeps the chain from settling. -/
theorem composable_of_lawful_chain (chain : (Mutator.chain members).mutate.Lawful)
    (mounts : mountsOfInitContainers ∈ members) (images : imagesOfInitContainers ∈ members) :
    wholeInitContainers ∈ members ∨ [imagesOfInitContainers, mountsOfInitContainers].Sublist members := by
  by_cases whole : wholeInitContainers ∈ members
  · exact .inl whole
  refine .inr (Classical.byContradiction fun unordered => ?_)
  obtain ⟨front, back, rfl, fresh⟩ := List.eq_append_cons_of_mem images
  have behind : mountsOfInitContainers ∉ back := fun later => unordered <|
    ((List.singleton_sublist.mpr later).cons_cons _).trans (List.sublist_append_right ..)
  have before : mountsOfInitContainers ∈ front := by
    rcases List.mem_append.mp mounts with early | late
    · exact early
    · exact ((List.mem_cons.mp late).elim images_ne_mounts.symm behind).elim
  -- the first run: what is in front leaves the one init container, and the rule for images adds the other one
  obtain ⟨success, two⟩ : (Mutate.chain ((front ++ imagesOfInitContainers :: back).map Mutator.mutate)
        oneInitContainer twoInitContainers).Succeeds ∧
      HasInitContainers initContainersWithImages (Mutate.chain ((front ++ imagesOfInitContainers :: back).map
        Mutator.mutate) oneInitContainer twoInitContainers).object := by
    rw [List.map_append, List.map_cons]
    refine Mutate.succeeds_chain_append (chain_keeps_initContainers library lawful whole
      (fun member within => List.mem_append_left _ within) fresh (fun _ => by decide) ⟨rfl, rfl⟩) fun object one => ?_
    obtain ⟨step, added⟩ := images_adds (.inl one)
    obtain ⟨later, ends⟩ := chain_keeps_two library lawful whole
      (fun member within => List.mem_append_right _ (List.mem_cons_of_mem _ within)) behind added
    rw [Mutate.object_chain_cons step]
    exact ⟨Mutate.succeeds_chain_cons_iff.mpr ⟨step, later⟩, ends⟩
  rw [Mutator.mutate_chain] at chain
  have quiet := chain twoInitContainers oneInitContainer success
  revert two quiet
  generalize (Mutate.chain ((front ++ imagesOfInitContainers :: back).map Mutator.mutate) oneInitContainer
    twoInitContainers).object = ending
  intro two quiet
  -- the second run: the first rule for volume mounts meets both init containers
  obtain ⟨early, late, rfl, first⟩ := List.eq_append_cons_of_mem before
  rw [List.append_assoc, List.cons_append, List.map_append, List.map_cons, Mutate.quiet_chain_append_iff,
    Mutate.quiet_chain_cons_iff] at quiet
  refine not_quiet_mounts ?_ quiet.2.1
  exact (chain_keeps_initContainers library lawful whole
    (fun member within => List.mem_append_left _ (List.mem_append_left _ within))
    (fun within => fresh (List.mem_append_left _ within)) (fun within => absurd within first) two).2

end Needed

end Deployment

/-- The rule for one key wants the empty text where no text is desired, and the rule for all texts wants none. -/
theorem Secret.exclusive_of_lawful_chain {members : List (Mutator .secret)}
    (library : ∀ member ∈ members, member.IsLibrary) (lawful : ∀ member ∈ members, member.mutate.Lawful)
    (chain : (Mutator.chain members).mutate.Lawful) (texts : @Mutator.rule .secret .stringData ∈ members)
    (name : String) : @Mutator.rule .secret (.key name) ∉ members := by
  intro key
  let empty : Object Secret := ⟨{}, {}⟩
  rw [Mutator.mutate_chain] at chain
  have success : (Mutate.chain (members.map Mutator.mutate) empty empty).Succeeds := by
    refine (Mutate.succeeds_chain_of_keeps (fun _ => True) (List.forall_mem_map.mpr fun member within existing _ => ?_)
      trivial).1
    rcases Mutator.eq_of_lawful (library member within) (lawful member within) with rfl | ⟨rule, rfl, -⟩
    · simp only [Mutator.mutate]
      exact ⟨⟨false, rfl⟩, trivial⟩
    · simp only [Mutator.mutate]
      exact ⟨Rule.succeeds rule existing empty, trivial⟩
  have quiet := Mutate.quiet_members_of_quiet_chain (List.forall_mem_map.mpr fun member within existing quiet => by
    rcases Mutator.eq_of_lawful (library member within) (lawful member within) with rfl | ⟨rule, rfl, -⟩
    · simp only [Mutator.mutate]
      rfl
    · simp only [Mutator.mutate] at quiet ⊢
      exact Rule.object_of_quiet quiet) (chain empty empty success)
  have wantsKey := Rule.quiet_iff.mp (List.forall_mem_map.mp quiet _ key)
  have wantsTexts := Rule.quiet_iff.mp (List.forall_mem_map.mp quiet _ texts)
  generalize (Mutate.chain (members.map Mutator.mutate) empty empty).object.content = ending at wantsKey wantsTexts
  have present : ending.value? name = some "" := wantsKey
  have values : ending.values = .empty := wantsTexts
  rw [← get?_values, values] at present
  cases present

namespace Kind

/-- The lists of mutators whose members do not work against each other. -/
def Composable : (kind : Kind) → List (Mutator kind) → Prop
  | deployment, members =>
      Deployment.mountsOfInitContainers ∈ members → Deployment.imagesOfInitContainers ∈ members →
        Deployment.wholeInitContainers ∈ members ∨
          [Deployment.imagesOfInitContainers, Deployment.mountsOfInitContainers].Sublist members
  | secret, members =>
      @Mutator.rule .secret .stringData ∈ members → ∀ name, @Mutator.rule .secret (.key name) ∉ members
  | _, _ => True

end Kind

/-- A chain of lawful mutators of the library is lawful exactly if its members do not work against each other. -/
theorem lawful_chain_iff_composable {kind : Kind} {members : List (Mutator kind)}
    (library : ∀ member ∈ members, member.IsLibrary) (lawful : ∀ member ∈ members, member.mutate.Lawful) :
    (Mutator.chain members).mutate.Lawful ↔ kind.Composable members := by
  cases kind with
  | deployment =>
    exact ⟨Deployment.composable_of_lawful_chain library lawful, Deployment.lawful_chain_of_composable library lawful⟩
  | secret =>
    refine ⟨Secret.exclusive_of_lawful_chain library lawful, fun exclusive => ?_⟩
    refine Mutator.lawful_chain_of_no_clash library lawful ?_
    rintro rule other first second ⟨name, ⟨rfl, rfl⟩ | ⟨rfl, rfl⟩⟩
    · exact exclusive second name first
    · exact exclusive first name second
  | _ => exact ⟨fun _ => trivial, fun _ => Mutator.lawful_chain_of_no_clash library lawful fun _ _ _ _ clash => clash⟩

/-- The images of init containers come before their volume mounts, and two other members are in between. -/
theorem lawful_chain_of_ordered_members :
    let members : List (Mutator .deployment) :=
      [Deployment.imagesOfInitContainers, .createOnly, .rule Deployment.Rule.args, Deployment.mountsOfInitContainers]
    (Mutator.chain members).mutate.Lawful := by
  intro members
  have idle : (@Mutator.createOnly .deployment).mutate.Lawful := by
    simp only [Mutator.mutate]
    exact fun desired existing _ => rfl
  refine (@lawful_chain_iff_composable .deployment members ?_ ?_).mpr fun _ _ => .inr ?_
  · simp only [members, List.forall_mem_cons]
    exact ⟨.rule _, .createOnly, .rule _, .rule _, fun _ within => absurd within List.not_mem_nil⟩
  · simp only [members, List.forall_mem_cons]
    have lawful {rule : Deployment.Rule} := @Deployment.lawful_member rule
    exact ⟨lawful trivial, idle, lawful trivial, lawful trivial, fun _ within => absurd within List.not_mem_nil⟩
  · exact (((List.Sublist.slnil.cons_cons _).cons _).cons _).cons_cons _

/-- With the two members the other way round, an init container is added in the first run and mounts its volume only
in the second one. -/
theorem chain_of_lawful_changes_again :
    let members := [Deployment.mountsOfInitContainers, Deployment.imagesOfInitContainers]
    let chain := (Mutator.chain members).mutate
    let once := chain Deployment.oneInitContainer Deployment.twoInitContainers
    (∀ member ∈ members, member.IsLibrary ∧ member.mutate.Lawful) ∧ once.outcome = .ok true ∧
      (chain once.object Deployment.twoInitContainers).outcome = .ok true := by
  refine ⟨?_, rfl, rfl⟩
  simp only [List.forall_mem_cons]
  exact ⟨⟨.rule _, Deployment.lawful_member trivial⟩, ⟨.rule _, Deployment.lawful_member trivial⟩,
    fun _ within => absurd within List.not_mem_nil⟩

end Reconciliation
