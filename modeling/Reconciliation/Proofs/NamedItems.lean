import Reconciliation.Proofs.DeploymentLaws
import Reconciliation.Proofs.ExactReports
import Reconciliation.Proofs.NamedEdits

/-! # Rules for named items

Some rules of deployments govern only the volumes, mounts or environment variables of given names. Each of them goes
over some lists of the deployment (`Rule.Governs`), and does in each of these what the edit of named items does
(`Rule.read?_mutate`, `Rule.quiet_again_iff`). The items of other names stay as they are in every list, and beyond
these lists nothing changes. Of the items of a given name only the first one follows.
-/

namespace Reconciliation.Deployment

/-- Where a container is in a deployment. -/
inductive ContainerPlace
  | container (index : Nat)
  | initContainer (index : Nat)

def ContainerPlace.find? : ContainerPlace → Deployment → Option Container
  | container index, deployment => deployment.containers[index]?
  | initContainer index, deployment => deployment.initContainers[index]?

/-- The lists that rules for named items go over. -/
inductive NamedList
  | volumes
  | volumeMounts (place : ContainerPlace)
  | env (place : ContainerPlace)

namespace NamedList

abbrev Item : NamedList → Type
  | volumes => Volume
  | volumeMounts _ => VolumeMount
  | env _ => EnvVar

instance : (list : NamedList) → DecidableEq list.Item
  | volumes => inferInstanceAs (DecidableEq Volume)
  | volumeMounts _ => inferInstanceAs (DecidableEq VolumeMount)
  | env _ => inferInstanceAs (DecidableEq EnvVar)

def nameOf : (list : NamedList) → list.Item → String
  | volumes => Volume.name
  | volumeMounts _ => VolumeMount.name
  | env _ => EnvVar.name

/-- The list, if it is there; there is none where there is no container. -/
def read? : (list : NamedList) → Deployment → Option (List list.Item)
  | volumes, deployment => deployment.podSpecOrDefault.volumes
  | volumeMounts place, deployment => (place.find? deployment).bind (·.volumeMounts)
  | env place, deployment => (place.find? deployment).bind (·.env)

/-- The items of a name, in their order. -/
def called (list : NamedList) (name : String) (deployment : Deployment) : List list.Item :=
  Edit.called list.nameOf name (list.read? deployment)

/-- The items whose names are not among the given ones, in their order. -/
def others (list : NamedList) (names : List String) (deployment : Deployment) : List list.Item :=
  ((list.read? deployment).getD []).filter (list.nameOf · ∉ names)

/-- What the edit of named items makes of the list. -/
def edit (list : NamedList) (names : List String) (existing desired : Deployment) : Edit (Option (List list.Item)) :=
  Edit.namedEach list.nameOf names (list.read? existing) ((list.read? desired).getD [])

section Edited

variable {list : NamedList} {names : List String} {existing after desired : Deployment}
  (edited : list.read? after = (list.edit names existing desired).value)

include edited

theorem called_of_edited (name : String) :
    list.called name after =
      Edit.rounds (names.count name) (list.called name desired) (list.called name existing) := by
  rw [called, edited]
  exact Edit.called_namedEach_eq_rounds ..

theorem others_of_edited : list.others names after = list.others names existing := by
  rw [others, edited]
  exact Edit.filter_namedEach ..

theorem changed_edit_again_iff :
    (list.edit names after desired).changed = false ↔
      ∀ name ∈ names, list.called name desired = [] → (list.called name existing).length ≤ names.count name := by
  rw [edit, edited]
  exact Edit.changed_namedEach_again_iff ..

end Edited

end NamedList

/-- Whether a rule is one for named items. -/
def Rule.IsNamed : Rule → Prop
  | namedVolumes _ | namedContainerVolumeMounts _ | namedInitContainerVolumeMounts _ | envVar _ => True
  | _ => False

/-- The names that a rule for named items is given. -/
def Rule.names : Rule → List String
  | namedVolumes names | namedContainerVolumeMounts names | namedInitContainerVolumeMounts names => names
  | envVar name => [name]
  | _ => []

/-- The lists that a rule for named items goes over. -/
def Rule.Governs : Rule → NamedList → Prop
  | namedVolumes _, .volumes => True
  | namedContainerVolumeMounts _, .volumeMounts (.container _) => True
  | namedInitContainerVolumeMounts _, .volumeMounts (.initContainer _) => True
  | envVar _, .env _ => True
  | _, _ => False

/-- There are as many containers as desired, as far as a rule for named items looks at their numbers. -/
def Rule.Pairs : Rule → Deployment → Deployment → Prop
  | namedContainerVolumeMounts _, existing, desired => existing.containers.length = desired.containers.length
  | namedInitContainerVolumeMounts _, existing, desired =>
      existing.initContainers.length = desired.initContainers.length
  | envVar _, existing, desired =>
      existing.containers.length = desired.containers.length ∧
        existing.initContainers.length = desired.initContainers.length
  | _, _, _ => True

section Containers

variable {γ : Type} [DecidableEq γ] {nameOf : γ → String} {names : List String}
  {get : Container → Option (List γ)} {edit : Container → Container → Edit Container}
  (edited : ∀ current wanted,
    (edit current wanted).map get = Edit.namedEach nameOf names (get current) ((get wanted).getD []))
  {items wanted : List Container}

include edited

/-- Where containers are edited in pairs, the list of each of them is edited with the one at the same place. -/
theorem bind_value_pairs (same : items.length = wanted.length) (index : Nat) :
    (Edit.pairs edit items wanted).value[index]?.bind get =
      (Edit.namedEach nameOf names (items[index]?.bind get) ((wanted[index]?.bind get).getD [])).value := by
  rw [Edit.getElem?_value_pairs same]
  by_cases inside : index < items.length
  · have there : index < wanted.length := same ▸ inside
    simp only [List.getElem?_eq_getElem inside, List.getElem?_eq_getElem there, Option.bind_some, Option.map_some]
    exact congrArg Edit.value (edited items[index] wanted[index])
  · have nothing : items[index]? = none := List.getElem?_eq_none (by omega)
    have absent : wanted[index]? = none := List.getElem?_eq_none (by omega)
    simp only [nothing, absent, Option.bind_none]
    exact (congrArg Edit.value (Edit.namedEach_self nameOf names none)).symm

theorem changed_pairs_named_iff (same : items.length = wanted.length) :
    (Edit.pairs edit items wanted).changed = false ↔ ∀ index : Nat,
      (Edit.namedEach nameOf names (items[index]?.bind get) ((wanted[index]?.bind get).getD [])).changed = false := by
  rw [Edit.changed_pairs_eq_false_iff]
  constructor
  · intro unchanged index
    by_cases inside : index < items.length
    · have there : index < wanted.length := same ▸ inside
      have here := unchanged index _ _ (List.getElem?_eq_getElem inside) (List.getElem?_eq_getElem there)
      rw [List.getElem?_eq_getElem inside, List.getElem?_eq_getElem there, Option.bind_some, Option.bind_some, ← edited]
      exact here
    · have nothing : items[index]? = none := List.getElem?_eq_none (by omega)
      have absent : wanted[index]? = none := List.getElem?_eq_none (by omega)
      simp only [nothing, absent, Option.bind_none]
      exact congrArg Edit.changed (Edit.namedEach_self nameOf names none)
  · intro unchanged index current goal here there
    have settled := unchanged index
    rw [here, there, Option.bind_some, Option.bind_some, ← edited] at settled
    exact settled

end Containers

theorem map_editNamedVolumeMounts (names : List String) (current wanted : Container) :
    (editNamedVolumeMounts names current wanted).map (·.volumeMounts) =
      Edit.namedEach VolumeMount.name names current.volumeMounts (wanted.volumeMounts.getD []) := rfl

theorem map_editEnvVar (name : String) (current wanted : Container) :
    (editEnvVar name current wanted).map (·.env) =
      Edit.namedEach EnvVar.name [name] current.env (wanted.env.getD []) := by
  rw [Edit.namedEach_cons]
  exact Edit.ext rfl (Bool.or_false _).symm

section Rules

variable {rule : Rule} {existing desired : Object Deployment}

/-- A rule for named items that does not find as many containers as desired leaves the deployment alone. -/
theorem Rule.mutate_of_not_pairs (named : rule.IsNamed) (apart : ¬ rule.Pairs existing.content desired.content) :
    rule.mutate existing desired = .done (.keep existing) := by
  cases rule with
  | namedVolumes names => exact absurd trivial apart
  | namedContainerVolumeMounts names =>
    have kept : editEqualContainers (editNamedVolumeMounts names) existing.content desired.content =
        .keep existing.content := if_neg apart
    exact congrArg (fun edit => Mutation.done (edit.map existing.withContent)) kept
  | namedInitContainerVolumeMounts names =>
    have kept : editEqualInitContainers (editNamedVolumeMounts names) existing.content desired.content =
        .keep existing.content := if_neg apart
    exact congrArg (fun edit => Mutation.done (edit.map existing.withContent)) kept
  | envVar name =>
    have kept : followEnvVar name existing.content desired.content = .keep existing.content := if_neg apart
    exact congrArg (fun edit => Mutation.done (edit.map existing.withContent)) kept
  | _ => exact named.elim

/-- What a rule for named items does where it finds as many containers as desired. -/
def Rule.namedEdit : Rule → Deployment → Deployment → Edit Deployment
  | namedVolumes names => followNamedVolumes names
  | namedContainerVolumeMounts names => editContainers (editNamedVolumeMounts names)
  | namedInitContainerVolumeMounts names => editInitContainers (editNamedVolumeMounts names)
  | envVar name => fun existing desired =>
      (editInitContainers (editEnvVar name) existing desired).bind fun existing =>
        editContainers (editEnvVar name) existing desired
  | _ => fun existing _ => .keep existing

theorem Rule.mutate_of_pairs (named : rule.IsNamed) (pairs : rule.Pairs existing.content desired.content) :
    rule.mutate existing desired =
      .done ((rule.namedEdit existing.content desired.content).map existing.withContent) := by
  cases rule with
  | namedVolumes names => rfl
  | namedContainerVolumeMounts names =>
    have edited : editEqualContainers (editNamedVolumeMounts names) existing.content desired.content =
        editContainers (editNamedVolumeMounts names) existing.content desired.content := if_pos pairs
    exact congrArg (fun edit => Mutation.done (edit.map existing.withContent)) edited
  | namedInitContainerVolumeMounts names =>
    have edited : editEqualInitContainers (editNamedVolumeMounts names) existing.content desired.content =
        editInitContainers (editNamedVolumeMounts names) existing.content desired.content := if_pos pairs
    exact congrArg (fun edit => Mutation.done (edit.map existing.withContent)) edited
  | envVar name =>
    have edited : followEnvVar name existing.content desired.content =
        (editInitContainers (editEnvVar name) existing.content desired.content).bind fun existing =>
          editContainers (editEnvVar name) existing desired.content := if_pos pairs
    exact congrArg (fun edit => Mutation.done (edit.map existing.withContent)) edited
  | _ => exact named.elim

end Rules

section Lists

variable {rule : Rule} {existing desired : Deployment}

/-- The init containers are edited first, and this does not touch the containers. -/
theorem containers_namedEdit_envVar (name : String) (existing desired : Deployment) :
    ((Rule.envVar name).namedEdit existing desired).value.containers =
      (Edit.pairs (editEnvVar name) existing.containers desired.containers).value := by
  have kept := containers_editInitContainers (editEnvVar name) existing desired
  rw [← kept]
  rfl

theorem initContainers_namedEdit_envVar (name : String) (existing desired : Deployment) :
    ((Rule.envVar name).namedEdit existing desired).value.initContainers =
      (Edit.pairs (editEnvVar name) existing.initContainers desired.initContainers).value :=
  initContainers_editInitContainers (editEnvVar name) existing desired

/-- In every list that it governs, a rule for named items does what the edit of named items does. -/
theorem Rule.read?_namedEdit (pairs : rule.Pairs existing desired) {list : NamedList} (governs : rule.Governs list) :
    list.read? (rule.namedEdit existing desired).value = (list.edit rule.names existing desired).value := by
  cases rule with
  | namedVolumes names =>
    cases list with
    | volumes => rfl
    | _ => exact governs.elim
  | namedContainerVolumeMounts names =>
    match list, governs with
    | .volumeMounts (.container index), _ => exact bind_value_pairs (map_editNamedVolumeMounts names) pairs index
  | namedInitContainerVolumeMounts names =>
    match list, governs with
    | .volumeMounts (.initContainer index), _ =>
      have edited := bind_value_pairs (map_editNamedVolumeMounts names) pairs index
      rw [← initContainers_editInitContainers] at edited
      exact edited
  | envVar name =>
    match list, governs with
    | .env (.container index), _ =>
      have edited := bind_value_pairs (map_editEnvVar name) pairs.1 index
      rw [← containers_namedEdit_envVar] at edited
      exact edited
    | .env (.initContainer index), _ =>
      have edited := bind_value_pairs (map_editEnvVar name) pairs.2 index
      rw [← initContainers_namedEdit_envVar] at edited
      exact edited
  | _ => exact governs.elim

/-- A rule for named items has something to do exactly if there is something to do in a list that it governs. -/
theorem Rule.changed_namedEdit_eq_false_iff (named : rule.IsNamed) (pairs : rule.Pairs existing desired) :
    (rule.namedEdit existing desired).changed = false ↔
      ∀ list, rule.Governs list → (list.edit rule.names existing desired).changed = false := by
  cases rule with
  | namedVolumes names =>
    constructor
    · intro unchanged list governs
      match list, governs with
      | .volumes, _ => exact unchanged
    · intro all
      exact all .volumes trivial
  | namedContainerVolumeMounts names =>
    have each := changed_pairs_named_iff (map_editNamedVolumeMounts names) pairs
    constructor
    · intro unchanged list governs
      match list, governs with
      | .volumeMounts (.container index), _ => exact each.mp unchanged index
    · intro all
      exact each.mpr fun index => all (.volumeMounts (.container index)) trivial
  | namedInitContainerVolumeMounts names =>
    have each := changed_pairs_named_iff (map_editNamedVolumeMounts names) pairs
    rw [← changed_editInitContainers] at each
    constructor
    · intro unchanged list governs
      match list, governs with
      | .volumeMounts (.initContainer index), _ => exact each.mp unchanged index
    · intro all
      exact each.mpr fun index => all (.volumeMounts (.initContainer index)) trivial
  | envVar name =>
    have first := changed_pairs_named_iff (map_editEnvVar name) pairs.2
    have later := changed_pairs_named_iff (map_editEnvVar name) pairs.1
    rw [← changed_editInitContainers] at first
    rw [← containers_editInitContainers (editEnvVar name) existing desired] at later
    constructor
    · intro unchanged list governs
      obtain ⟨inits, others⟩ := Bool.or_eq_false_iff.mp unchanged
      match list, governs with
      | .env (.initContainer index), _ => exact first.mp inits index
      | .env (.container index), _ =>
        have here := later.mp others index
        rw [containers_editInitContainers] at here
        exact here
    · intro all
      apply Bool.or_eq_false_iff.mpr
      constructor
      · exact first.mpr fun index => all (.env (.initContainer index)) trivial
      · refine later.mpr fun index => ?_
        rw [containers_editInitContainers]
        exact all (.env (.container index)) trivial
  | _ => exact named.elim

/-- A rule for named items keeps the number of containers. -/
theorem Rule.pairs_namedEdit (pairs : rule.Pairs existing desired) :
    rule.Pairs (rule.namedEdit existing desired).value desired := by
  cases rule with
  | namedContainerVolumeMounts names =>
    exact (Edit.length_value_pairs _ existing.containers desired.containers).trans pairs
  | namedInitContainerVolumeMounts names =>
    have same := congrArg List.length (initContainers_editInitContainers (editNamedVolumeMounts names) existing desired)
    rw [Edit.length_value_pairs] at same
    exact same.trans pairs
  | envVar name =>
    have inits := congrArg List.length (initContainers_namedEdit_envVar name existing desired)
    have others := congrArg List.length (containers_namedEdit_envVar name existing desired)
    rw [Edit.length_value_pairs] at inits others
    exact ⟨others.trans pairs.1, inits.trans pairs.2⟩
  | _ => trivial

end Lists

section Following

variable {rule : Rule} {existing desired : Object Deployment} (named : rule.IsNamed)
  (pairs : rule.Pairs existing.content desired.content)

include named pairs

theorem Rule.content_mutate_of_pairs :
    (rule.mutate existing desired).object.content = (rule.namedEdit existing.content desired.content).value := by
  rw [mutate_of_pairs named pairs]
  rfl

theorem Rule.outcome_mutate_of_pairs :
    (rule.mutate existing desired).outcome = .ok (rule.namedEdit existing.content desired.content).changed := by
  rw [mutate_of_pairs named pairs]
  rfl

theorem Rule.read?_mutate {list : NamedList} (governs : rule.Governs list) :
    list.read? (rule.mutate existing desired).object.content =
      (list.edit rule.names existing.content desired.content).value := by
  rw [content_mutate_of_pairs named pairs]
  exact read?_namedEdit pairs governs

/-- A second run has nothing to do exactly if the first one could drop all that is not wanted. -/
theorem Rule.quiet_again_iff :
    (rule.mutate (rule.mutate existing desired).object desired).outcome = .ok false ↔
      ∀ list, rule.Governs list → ∀ name ∈ rule.names, list.called name desired.content = [] →
        (list.called name existing.content).length ≤ rule.names.count name := by
  have again : rule.Pairs (rule.mutate existing desired).object.content desired.content := by
    rw [content_mutate_of_pairs named pairs]
    exact pairs_namedEdit pairs
  rw [outcome_mutate_of_pairs named again, Except.ok.injEq, changed_namedEdit_eq_false_iff named again]
  apply forall₂_congr
  intro list governs
  exact NamedList.changed_edit_again_iff (read?_mutate named pairs governs)

end Following

/-- Of the items of a given name the first one follows. If some are desired, the first of these takes its place, and
if none is, as many are dropped as the name is given times; the items behind stay. So a second run has something to do
exactly if there were more to drop. Where a name occurs at most once on either side, its items become the desired ones
and a second run has nothing to do. -/
theorem first_named_items_follow {rule : Rule} {existing desired : Object Deployment} (named : rule.IsNamed)
    (pairs : rule.Pairs existing.content desired.content) :
    let once := rule.mutate existing desired
    let twice := rule.mutate once.object desired
    once.Succeeds ∧
      (∀ list, rule.Governs list → ∀ name ∈ rule.names, list.called name once.object.content =
        Edit.rounds (rule.names.count name) (list.called name desired.content) (list.called name existing.content)) ∧
      (twice.outcome = .ok false ↔ ∀ list, rule.Governs list → ∀ name ∈ rule.names,
        list.called name desired.content = [] →
          (list.called name existing.content).length ≤ rule.names.count name) ∧
      ((∀ list, rule.Governs list → ∀ name ∈ rule.names,
          (list.called name existing.content).length ≤ 1 ∧ (list.called name desired.content).length ≤ 1) →
        (∀ list, rule.Governs list → ∀ name ∈ rule.names,
          list.called name once.object.content = list.called name desired.content) ∧
        twice.outcome = .ok false) := by
  intro once twice
  have follows (list : NamedList) (governs : rule.Governs list) (name : String) :=
    NamedList.called_of_edited (Rule.read?_mutate named pairs governs) name
  have settled := Rule.quiet_again_iff named pairs
  refine ⟨⟨_, Rule.outcome_mutate_of_pairs named pairs⟩, fun list governs name _ => follows list governs name,
    settled, fun single => ⟨?_, settled.mpr ?_⟩⟩
  · intro list governs name given
    obtain ⟨here, there⟩ := single list governs name given
    rw [follows list governs name]
    exact Edit.rounds_of_single (List.count_pos_iff.mpr given) there here
  · intro list governs name given _
    have positive := List.count_pos_iff.mpr given
    have few := (single list governs name given).1
    omega

/-- The mount of a volume moves to another path, and that of another volume stays. -/
theorem first_named_items_follow_of_mount :
    let rule := Rule.namedContainerVolumeMounts ["data"]
    let deployment (path : String) : Object Deployment := ofPods {
      containers := [{ name := "web", volumeMounts := some [
        { name := "data", mountPath := path }, { name := "logs", mountPath := "/logs" }] }] }
    let once := rule.mutate (deployment "/a") (deployment "/b")
    rule.IsNamed ∧ rule.Pairs (deployment "/a").content (deployment "/b").content ∧ once.Succeeds ∧
      once.object = deployment "/b" ∧ (rule.mutate once.object (deployment "/b")).outcome = .ok false := by
  intro rule deployment once
  have follows := @first_named_items_follow rule (deployment "/a") (deployment "/b") trivial rfl
  refine ⟨trivial, rfl, follows.1, by decide +kernel, follows.2.2.1.mpr ?_⟩
  intro list governs name given unwanted
  obtain rfl : name = "data" := List.mem_singleton.mp given
  match list, governs with
  | .volumeMounts (.container 0), _ => decide +kernel
  | .volumeMounts (.container (_ + 1)), _ => exact Nat.zero_le _

/-- A variable that is set twice and is not desired stays once, and goes only when the rule is run again. A volume that
is to be mounted at two paths and is mounted at one of them is not mounted at the other one, however often. -/
theorem named_items_left_over :
    (let rule := Rule.envVar "MODE"
     let existing := ofPods { containers := [{ name := "web", env := some [{ name := "MODE" }, { name := "MODE" }] }] }
     let desired := ofPods { containers := [{ name := "web" }] }
     let list := NamedList.env (.container 0)
     let once := rule.mutate existing desired
     rule.Pairs existing.content desired.content ∧ rule.Governs list ∧ "MODE" ∈ rule.names ∧ once.Succeeds ∧
       list.called "MODE" once.object.content = ([{ name := "MODE" }] : List EnvVar) ∧
       list.called "MODE" desired.content = [] ∧ (rule.mutate once.object desired).outcome = .ok true) ∧
    (let rule := Rule.namedContainerVolumeMounts ["data"]
     let mounted (paths : List String) : Object Deployment := ofPods {
       containers := [{ name := "web", volumeMounts := some (paths.map fun path => ⟨path, "data", none, none⟩) }] }
     let list := NamedList.volumeMounts (.container 0)
     let once := rule.mutate (mounted ["/a"]) (mounted ["/a", "/b"])
     rule.Pairs (mounted ["/a"]).content (mounted ["/a", "/b"]).content ∧ rule.Governs list ∧ "data" ∈ rule.names ∧
       once.outcome = .ok false ∧
       list.called "data" once.object.content ≠ list.called "data" (mounted ["/a", "/b"]).content) := by
  constructor
  · refine ⟨⟨rfl, rfl⟩, trivial, by decide, ⟨true, rfl⟩, ?_, ?_, rfl⟩ <;> decide +kernel
  · exact ⟨rfl, trivial, by decide, rfl, by decide +kernel⟩

section Sparing

def withoutVolumeMounts (container : Container) : Container := { container with volumeMounts := none }

def withoutEnv (container : Container) : Container := { container with env := none }

theorem withoutVolumeMounts_editNamedVolumeMounts (names : List String) (current wanted : Container) :
    withoutVolumeMounts (editNamedVolumeMounts names current wanted).value = withoutVolumeMounts current := rfl

theorem withoutEnv_editEnvVar (name : String) (current wanted : Container) :
    withoutEnv (editEnvVar name current wanted).value = withoutEnv current := rfl

/-- What the pods run, but for the lists that a rule for named items governs. -/
def Rule.beyond : Rule → PodSpec → PodSpec
  | namedVolumes _, spec => { spec with volumes := none }
  | namedContainerVolumeMounts _, spec => { spec with containers := spec.containers.map withoutVolumeMounts }
  | namedInitContainerVolumeMounts _, spec =>
      { spec with initContainers := spec.initContainers.map (List.map withoutVolumeMounts) }
  | envVar _, spec =>
      { spec with
        containers := spec.containers.map withoutEnv
        initContainers := spec.initContainers.map (List.map withoutEnv) }
  | _, spec => spec

/-- An absent list of init containers stays absent, and what an edit of one of them keeps stays in all. -/
theorem editInitContainers_spares {γ : Type} {f : Container → γ} {edit : Container → Container → Edit Container}
    (keeps : ∀ current wanted, f (edit current wanted).value = f current) (existing desired : Deployment) :
    ∃ inits, (editInitContainers edit existing desired).value = existing.setInitContainers inits ∧
      inits.map (List.map f) = existing.podSpecOrDefault.initContainers.map (List.map f) := by
  rw [editInitContainers]
  split
  · next absent => exact ⟨none, rfl, by rw [absent]⟩
  · next current present =>
    refine ⟨_, rfl, ?_⟩
    rw [present, Option.map_some, Option.map_some, map_value_pairs keeps]

theorem Rule.beyond_namedEdit {rule : Rule} (named : rule.IsNamed) (existing desired : Deployment) :
    ∃ spec, (rule.namedEdit existing desired).value = existing.setPodSpec spec ∧
      rule.beyond spec = rule.beyond existing.podSpecOrDefault := by
  cases rule with
  | namedVolumes names => exact ⟨_, rfl, rfl⟩
  | namedContainerVolumeMounts names =>
    have kept := map_value_pairs (withoutVolumeMounts_editNamedVolumeMounts names) existing.containers
      desired.containers
    exact ⟨_, rfl, congrArg (fun containers => { existing.podSpecOrDefault with containers }) kept⟩
  | namedInitContainerVolumeMounts names =>
    obtain ⟨inits, set, kept⟩ :=
      editInitContainers_spares (withoutVolumeMounts_editNamedVolumeMounts names) existing desired
    exact ⟨_, set, congrArg (fun initContainers => { existing.podSpecOrDefault with initContainers }) kept⟩
  | envVar name =>
    obtain ⟨inits, set, kept⟩ := editInitContainers_spares (withoutEnv_editEnvVar name) existing desired
    have others := map_value_pairs (withoutEnv_editEnvVar name) existing.containers desired.containers
    refine ⟨{ existing.podSpecOrDefault with
      containers := (Edit.pairs (editEnvVar name) existing.containers desired.containers).value
      initContainers := inits }, ?_, ?_⟩
    · rw [namedEdit, Edit.value_bind, set]
      rfl
    · simp only [beyond, others, kept]
      rfl
  | _ => exact named.elim

/-- A rule for named items touches nothing else. In the lists that it governs the items of other names stay, in their
order. All that becomes another one beside these lists is that the specification and that of the pods are created if
they are absent. And where there are not as many containers as desired, nothing is done and nothing reported. -/
theorem named_rules_spare_others {rule : Rule} (named : rule.IsNamed) (existing desired : Object Deployment) :
    let mutation := rule.mutate existing desired
    (∀ list, rule.Governs list →
      list.others rule.names mutation.object.content = list.others rule.names existing.content) ∧
    (rule.Pairs existing.content desired.content → mutation.Succeeds ∧
      ∃ spec, mutation.object = existing.withContent (existing.content.setPodSpec spec) ∧
        rule.beyond spec = rule.beyond existing.content.podSpecOrDefault) ∧
    (¬ rule.Pairs existing.content desired.content → mutation.outcome = .ok false ∧ mutation.object = existing) := by
  intro mutation
  by_cases pairs : rule.Pairs existing.content desired.content
  · refine ⟨fun list governs => ?_, fun _ => ?_, fun apart => absurd pairs apart⟩
    · exact NamedList.others_of_edited (Rule.read?_mutate named pairs governs)
    · obtain ⟨spec, set, kept⟩ := Rule.beyond_namedEdit named existing.content desired.content
      refine ⟨⟨_, Rule.outcome_mutate_of_pairs named pairs⟩, spec, ?_, kept⟩
      rw [← set]
      exact congrArg Mutation.object (Rule.mutate_of_pairs named pairs)
  · have run : mutation = .done (.keep existing) := Rule.mutate_of_not_pairs named pairs
    rw [run]
    exact ⟨fun _ _ => rfl, fun matched => absurd matched pairs, fun _ => ⟨rfl, rfl⟩⟩

/-- Two variables of one name stay around the one that is edited. -/
theorem named_rules_spare_others_of_variables :
    let rule := Rule.envVar "MODE"
    let web (mode : String) (env : List EnvVar) : Object Deployment := ofPods {
      containers := [{ name := "web", env := some (⟨"PATH", none, none⟩ :: ⟨"MODE", some mode, none⟩ :: env) }] }
    let existing := web "slow" [⟨"PATH", none, none⟩]
    let list := NamedList.env (.container 0)
    rule.IsNamed ∧ rule.Governs list ∧
      list.others rule.names (rule.mutate existing (web "fast" [])).object.content =
        ([⟨"PATH", none, none⟩, ⟨"PATH", none, none⟩] : List EnvVar) := by
  intro rule web existing list
  have spared := (@named_rules_spare_others rule trivial existing (web "fast" [])).1 list trivial
  exact ⟨trivial, trivial, spared.trans (by decide +kernel)⟩

end Sparing

end Reconciliation.Deployment
