import Reconciliation.Proofs.Convergence
import Reconciliation.Proofs.Keeping
import Reconciliation.Proofs.SelectedPods

/-! # The parts of a stack select each other

Service, budget and monitor of a stack have to select what they are for: the pods of the deployment, and the service.
They are written by rules that work in different ways: labels are merged, selectors and ports replaced. All of them are
about the same labels, though, which tell the name of the stack. So after a pass that has succeeded they do select each
other, whatever there was before, and no service of a stack selects the pods of another one.
-/

namespace Reconciliation

namespace Api.Server

/-- A kind is served, and the server always says so. -/
structure Installs (server : Server) (kind : Kind) : Prop where
  permanent : ∀ fault ∈ server.faults, fault.times = none
  served : server.serves kind.apiVersion kind.name = .ok true

section Permanent

variable {server : Server} (permanent : ∀ fault ∈ server.faults, fault.times = none)

include permanent

/-- If all faults are permanent, a request changes nothing but objects. -/
theorem exists_items_handler (request : Request) : ∃ items, (handler request server).2 = { server with items } := by
  rw [handler]
  split
  · next rejection faults taken => exact ⟨server.items, faults_of_takeFault permanent taken ▸ rfl⟩
  · exact ⟨_, rfl⟩

theorem exists_items_run {α : Type} {allowed : Request → Prop} {program : Program Api α} (asks : program.Asks allowed) :
    ∃ items, (program.run handler server).state = { server with items } := by
  refine @Program.Asks.holds_of_run _ _ _ _ _ asks handler (fun state => ∃ items, state = { server with items }) ?_
    server ⟨server.items, rfl⟩
  rintro request - state ⟨items, rfl⟩
  exact @exists_items_handler { server with items } permanent request

theorem Knows.of_items {availability : Availability} (known : server.Knows availability)
    (items : SortedMap String Resource) : ({ server with items } : Server).Knows availability :=
  fun groupVersion name served recalled =>
    (serves_of_items permanent items groupVersion name).trans (known groupVersion name served recalled)

end Permanent

theorem Installs.of_items {server : Server} {kind : Kind} (installs : server.Installs kind)
    (items : SortedMap String Resource) : ({ server with items } : Server).Installs kind :=
  ⟨installs.permanent, (serves_of_items installs.permanent items _ _).trans installs.served⟩

end Api.Server

namespace AppStack

open Api Server

variable {owner : Owner} {server : Server} {part : Part} {name : String} {availability : Availability}

section Attempt

/-- An attempt changes nothing that is not below the root of its kind. -/
theorem get?_attempt_of_outside (optional : part.kind.isOptional = true → part.kind = .serviceMonitor) {path : String}
    (outside : ¬ part.kind.Owns path) :
    ((serve (reconcileManaged owner part.mutator.mutate part.desired part.enabled availability)).run Server.handler
      server).state.items.get? path = server.items.get? path := by
  have asks := serve_reconcileManaged_asks optional owner part.mutator.mutate part.desired part.enabled availability
  refine @Program.Asks.holds_of_run _ _ _ _ _ asks Server.handler
    (fun state => state.items.get? path = server.items.get? path) ?_ server rfl
  intro request about state same
  cases kind : request.kind? with
  | none =>
    rw [items_handler_of_discovery (Request.isDiscovery_iff.mpr kind)]
    exact same
  | some asked =>
    have asked : asked = part.kind := by rwa [subject, kind] at about
    exact (get?_handler_of_about (kind.trans (congrArg some asked)) outside).trans same

/-- What is known about the kinds that are served stays true. -/
theorem knows_after_attempt (optional : part.kind.isOptional = true → part.kind = .serviceMonitor)
    (permanent : ∀ fault ∈ server.faults, fault.times = none) (known : server.Knows availability) :
    let run := (serve (reconcileManaged owner part.mutator.mutate part.desired part.enabled availability)).run
      Server.handler server
    run.state.Knows run.result.2 := by
  intro run
  obtain ⟨items, state⟩ := exists_items_run permanent
    (serve_reconcileManaged_asks optional owner part.mutator.mutate part.desired part.enabled availability)
  have learned : server.Knows run.result.2 := by
    cases needed : part.kind.isOptional with
    | false =>
      simp only [run, run_reconcileManaged_of_required needed]
      exact known
    | true =>
      obtain ⟨learned, asked, knows, -, whole⟩ := run_reconcileManaged_of_optional permanent known needed owner
        part.mutator.mutate part.desired part.enabled
      rw [show run = _ from whole]
      split <;> exact knows
  rw [show run.state = _ from state]
  exact Knows.of_items permanent learned items

/-- After an attempt that has succeeded, the server keeps an object with which there is nothing to do. -/
theorem keeps_of_attempt (named : part.desired.metadata.name = some name) (settles : part.Settles)
    (untagged : (part.wanted owner).metadata.isTaggedForDeletion = false)
    (installs : part.kind.isOptional = true → server.Installs part.kind ∧ server.Knows availability) {outcome : Outcome}
    (success : ((serve (reconcileManaged owner part.mutator.mutate part.desired part.enabled availability)).run
      Server.handler server).result.1 = .ok outcome) :
    ∃ left, ((serve (reconcileManaged owner part.mutator.mutate part.desired part.enabled availability)).run
        Server.handler server).state.Keeps part.kind ⟨owner.namespaceName, name⟩ left ∧
      Reconcile.verdict owner part.mutator.mutate (part.wanted owner) (some left) = .finish (.ok .unchanged) := by
  have content := part.content_wanted owner
  have call {outcome : Outcome} := @keeps_of_reconcile owner part.kind part.mutator server name
    (Object.ifEnabled part.desired part.enabled) (part.name_ifEnabled.trans named) untagged
    (settles.settlesAt _ content) (content ▸ settles.accepts :) outcome
  cases needed : part.kind.isOptional with
  | false =>
    simp only [run_reconcileManaged_of_required needed] at success ⊢
    exact call success
  | true =>
    obtain ⟨⟨permanent, served⟩, known⟩ := installs needed
    obtain ⟨learned, asked, -, -, whole⟩ := run_reconcileManaged_of_optional permanent known needed owner
      part.mutator.mutate part.desired part.enabled
    rw [whole, served] at success ⊢
    exact call success

end Attempt

section Attempts

variable {parts : List Part} (optional : ∀ part ∈ parts, part.kind.isOptional = true → part.kind = .serviceMonitor)

include optional

theorem get?_attempts_of_outside {path : String} (outside : ∀ part ∈ parts, ¬ part.kind.Owns path) :
    (stateAfter server (attempts Server.handler owner parts availability server)).items.get? path =
      server.items.get? path := by
  induction parts generalizing availability server with
  | nil => rfl
  | cons part rest ih =>
    obtain ⟨here, later⟩ := List.forall_mem_cons.mp optional
    obtain ⟨apart, outside⟩ := List.forall_mem_cons.mp outside
    exact (ih later outside).trans (get?_attempt_of_outside here apart)

/-- After attempts at parts of kinds that are apart, all of which have succeeded, there is nothing to do about any of
the parts that are wanted, if their kinds are installed. -/
theorem keeps_of_attempts (apart : parts.Pairwise fun part other => part.kind.Apart other.kind)
    (named : ∀ part ∈ parts, part.desired.metadata.name = some name) (settle : ∀ part ∈ parts, part.Settles)
    (success : ∀ attempt ∈ attempts Server.handler owner parts availability server,
      ∃ outcome, attempt.run.result = .ok outcome) :
    ∀ part ∈ parts, (part.wanted owner).metadata.isTaggedForDeletion = false →
      (part.kind.isOptional = true → server.Installs part.kind ∧ server.Knows availability) →
      ∃ left, (stateAfter server (attempts Server.handler owner parts availability server)).Keeps part.kind
          ⟨owner.namespaceName, name⟩ left ∧
        Reconcile.verdict owner part.mutator.mutate (part.wanted owner) (some left) = .finish (.ok .unchanged) := by
  induction parts generalizing availability server with
  | nil => exact fun _ within => absurd within List.not_mem_nil
  | cons part rest ih =>
    obtain ⟨here, later⟩ := List.forall_mem_cons.mp optional
    obtain ⟨first, apart⟩ := List.pairwise_cons.mp apart
    obtain ⟨called, named⟩ := List.forall_mem_cons.mp named
    obtain ⟨settles, settle⟩ := List.forall_mem_cons.mp settle
    obtain ⟨⟨outcome, succeeds⟩, success⟩ := List.forall_mem_cons.mp success
    refine List.forall_mem_cons.mpr ⟨fun untagged installs => ?_, fun other among untagged installs => ?_⟩
    · obtain ⟨left, keeps, settled⟩ := keeps_of_attempt called settles untagged installs succeeds
      refine ⟨left, keeps.of_same fun path owns => ?_, settled⟩
      exact get?_attempts_of_outside later fun other among => first other among path owns
    · refine ih later apart named settle success other among untagged fun needed => ?_
      obtain ⟨installed, known⟩ := installs needed
      obtain ⟨items, state⟩ := exists_items_run installed.permanent
        (serve_reconcileManaged_asks here owner part.mutator.mutate part.desired part.enabled availability)
      exact ⟨state ▸ installed.of_items items, knows_after_attempt here installed.permanent known⟩

end Attempts

end AppStack

/-- Where there is nothing to do about an object, its labels have the desired ones, and the mutator has no work. -/
theorem Reconcile.in_line_of_settled {kind : Kind} {owner : Owner} {mutate : Mutate kind.Object}
    {wanted left : kind.Object} (untagged : wanted.metadata.isTaggedForDeletion = false)
    (settled : verdict owner mutate wanted (some left) = .finish (.ok .unchanged)) :
    Merge.Within wanted.metadata.labels left.metadata.labels ∧ mutate.Quiet wanted left := by
  rw [verdict_some_of_untagged untagged, verdictOnExisting] at settled
  split at settled
  · cases settled
  · cases settled
  · next owned changed adopted mutated =>
    split at settled
    · cases settled
    · next still =>
      simp only [Bool.or_eq_true, not_or, Bool.not_eq_true] at still
      obtain ⟨⟨follows, rfl⟩, rfl⟩ := still
      obtain ⟨name, namespaceName, labels, annotations⟩ := ObjectMeta.changed_follow_eq_false_iff.mp follows
      have same : followed wanted left = left := by
        rw [followed, ObjectMeta.follow_eq_keep_iff.mpr ⟨name, namespaceName, Merge.merge_eq_keep_of_unchanged labels,
          Merge.merge_eq_keep_of_unchanged annotations⟩, Edit.value_keep]
      rw [same] at adopted mutated
      rw [Owner.adopt_of_unchanged adopted, Mutation.object_done, Edit.value_keep] at mutated
      exact ⟨Merge.changed_merge_eq_false_iff.mp labels, mutated⟩

/-- There are labels to select by, and all of them are carried. What asks for no label at all selects everything or
nothing, which depends on the kind. -/
def SelectsBy (asked carried : Option StringMap) : Prop :=
  ∃ labels, asked = some labels ∧ labels ≠ .empty ∧ Merge.Within (some labels) carried

/-- A service selects the pods of a deployment. -/
def Service.SelectsPodsOf (service : Service) (deployment : Deployment) : Prop :=
  SelectsBy service.specOrDefault.selector deployment.podMetadata.labels

/-- A budget selects the pods of a deployment, and does so by their labels only. -/
def PodDisruptionBudget.SelectsPodsOf (budget : PodDisruptionBudget) (deployment : Deployment) : Prop :=
  ∃ selector, (budget.spec.getD default).selector = some selector ∧ selector.matchExpressions = none ∧
    SelectsBy selector.matchLabels deployment.podMetadata.labels

/-- A monitor selects a service, and looks at its ports. -/
structure ServiceMonitor.Selects (monitor : ServiceMonitor) (service : Object Service) : Prop where
  labels : SelectsBy monitor.spec.selector.matchLabels service.metadata.labels
  endpoints : monitor.spec.endpoints ≠ []
  ports : ∀ endpoint ∈ monitor.spec.endpoints, ∃ name, endpoint.port = some name ∧
    ∃ port ∈ service.content.specOrDefault.ports.getD [], port.name = some name

namespace AppStack

open Api Server

/-- The labels of a stack tell its name. -/
theorem get?_selectorLabels (stack : Stack) :
    (selectorLabels stack).get? "app.kubernetes.io/name" = some stack.nameAny := by
  change ((SortedMap.insert _ "app.kubernetes.io/managed-by" operatorName).get? _) = _
  rw [SortedMap.get?_insert_of_ne _ (by decide), SortedMap.get?_insert_self]

theorem selectsBy_selectorLabels {stack : Stack} {carried : Option StringMap}
    (within : Merge.Within (some (selectorLabels stack)) carried) : SelectsBy (some (selectorLabels stack)) carried := by
  refine ⟨selectorLabels stack, rfl, fun bare => ?_, within⟩
  have named := get?_selectorLabels stack
  rw [bare] at named
  cases named

/-- The pods of a stack do not have the labels of a stack of another name. -/
theorem labels_of_other {stack other : Stack} (differs : other.nameAny ≠ stack.nameAny) :
    ¬ Merge.Within (some (selectorLabels stack)) (deployment other).content.podMetadata.labels := by
  intro within
  have named := within _ _ (get?_selectorLabels stack)
  exact differs (Option.some.inj ((get?_selectorLabels other).symm.trans named))

/-- The desired monitor selects a service with the labels of the stack and the desired ports. -/
theorem selects_of_labels {stack : Stack} {exposed : Object Service}
    (labelled : Merge.Within (some (selectorLabels stack)) exposed.metadata.labels)
    (ports : exposed.content.specOrDefault.ports = (service stack).content.specOrDefault.ports) :
    (serviceMonitor stack).content.Selects exposed where
  labels := selectsBy_selectorLabels labelled
  endpoints := List.cons_ne_nil _ _
  ports := by
    intro endpoint among
    obtain rfl := List.mem_singleton.mp among
    refine ⟨portName, rfl, ?_⟩
    rw [ports]
    exact ⟨_, List.mem_cons_self, rfl⟩

/-- The pods have the desired labels if the mutator for the deployment has no work. -/
theorem labels_of_quiet {desired left : Object Deployment} (quiet : deploymentMutator.mutate.Quiet desired left) :
    Merge.Within desired.content.podMetadata.labels left.content.podMetadata.labels := by
  have order : deploymentRules = deploymentRules.take 4 ++ .podTemplateLabels :: deploymentRules.drop 5 := rfl
  rw [mutate_deploymentMutator, order, List.map_append, List.map_cons] at quiet
  obtain ⟨-, later⟩ := Mutate.quiet_chain_append_iff.mp quiet
  obtain ⟨merged, -⟩ := Mutate.quiet_chain_cons_iff.mp later
  have within := Deployment.podMetadata_of_unchanged rfl (Mutate.changed_of_quiet merged)
  -- none of the rules before touches these labels
  have kept := @Deployment.read_chain left desired (deploymentRules.take 4) .podLabels (by decide)
  simp only [Deployment.Aspect.read] at kept
  rwa [kept] at within

theorem spec_of_quiet_service {desired left : Object Service} (quiet : serviceMutator.mutate.Quiet desired left) :
    left.content.specOrDefault.ports = desired.content.specOrDefault.ports ∧
      left.content.specOrDefault.selector = desired.content.specOrDefault.selector := by
  rw [mutate_serviceMutator] at quiet
  obtain ⟨ports, later⟩ := Mutate.quiet_chain_cons_iff.mp quiet
  obtain ⟨selector, -⟩ := Mutate.quiet_chain_cons_iff.mp later
  exact ⟨Edit.changed_replace_eq_false_iff.mp (Except.ok.inj ports),
    Edit.changed_replace_eq_false_iff.mp (Except.ok.inj selector)⟩

theorem selector_of_quiet_budget {desired left : Object PodDisruptionBudget}
    (quiet : PodDisruptionBudget.Rule.spec.mutate.Quiet desired left) :
    (left.content.spec.getD default).selector = (desired.content.spec.getD default).selector :=
  Edit.changed_replace_eq_false_iff.mp (Bool.or_eq_false_iff.mp (Except.ok.inj quiet)).2

theorem content_of_quiet_monitor {desired left : Object ServiceMonitor}
    (quiet : (@SpecRule.mutate ServiceMonitor _ .spec).Quiet desired left) : left.content = desired.content :=
  Edit.changed_replace_eq_false_iff.mp (Except.ok.inj quiet)

section Pass

variable {stack : Stack} {server : Server} {next : Next}

theorem ok_of_ofObject (owned : Owner.ofObject .appStack stack = .ok owner) :
    stack.metadata.namespaceName = some owner.namespaceName ∧ ∃ name, stack.metadata.name = some name := by
  simp only [Owner.ofObject] at owned
  split at owned
  · cases owned
  · next within named _ =>
    cases owned
    exact ⟨within, _, named⟩
  · cases owned

/-- A pass that succeeds has an owner. -/
theorem owned_of_pass (live : stack.metadata.deletionTimestamp = none)
    (success : ((serve (pass stack)).run Server.handler server).result = .ok next) :
    ∃ owner, Owner.ofObject .appStack stack = .ok owner := by
  cases owned : Owner.ofObject .appStack stack with
  | ok owner => exact ⟨owner, rfl⟩
  | error failure =>
    simp only [pass, live, owned] at success
    cases success

/-- The parts of a stack but the account have roots of their own. -/
theorem apart_parts (stack : Stack) : (parts stack).tail.Pairwise fun part other => part.kind.Apart other.kind := by
  have roots : [Kind.deployment, .service, .podDisruptionBudget, .serviceMonitor].Pairwise fun kind other =>
      ¬ (kind.rootPath ++ "/namespaces/").toList <+: (other.rootPath ++ "/namespaces/").toList ∧
        ¬ (other.rootPath ++ "/namespaces/").toList <+: (kind.rootPath ++ "/namespaces/").toList := by decide +kernel
  have kinds : (parts stack).tail.map (·.kind) = [.deployment, .service, .podDisruptionBudget, .serviceMonitor] := rfl
  rw [← kinds] at roots
  exact (List.pairwise_map.mp roots).imp fun ⟨first, second⟩ => Kind.apart_of_roots first second

/-- After a pass that has succeeded, there is nothing to do about any part that is wanted, but possibly the account. -/
theorem keeps_of_pass (live : stack.metadata.deletionTimestamp = none)
    (owned : Owner.ofObject .appStack stack = .ok owner) (named : stack.metadata.name = some name)
    (success : ((serve (pass stack)).run Server.handler server).result = .ok next) :
    ∀ part ∈ (parts stack).tail, (part.wanted owner).metadata.isTaggedForDeletion = false →
      (part.kind.isOptional = true → server.Installs part.kind) →
      ∃ left, ((serve (pass stack)).run Server.handler server).state.Keeps part.kind ⟨owner.namespaceName, name⟩ left ∧
        Reconcile.verdict owner part.mutator.mutate (part.wanted owner) (some left) = .finish (.ok .unchanged) := by
  rw [run_pass live owned] at success ⊢
  have succeeds : ∀ attempt ∈ attempts Server.handler owner (parts stack) .unknown server,
      ∃ outcome, attempt.run.result = .ok outcome := by
    have done : firstFailure ((attempts Server.handler owner (parts stack) .unknown server).map (·.run.result)) =
        .ok () := by
      revert success
      cases firstFailure _ with
      | error failure => exact nofun
      | ok done => exact fun _ => rfl
    exact fun attempt among => firstFailure_eq_ok_iff.mp done _ (List.mem_map_of_mem among)
  intro part within untagged installs
  obtain ⟨account, order⟩ : ∃ account, parts stack = account :: (parts stack).tail := ⟨_, rfl⟩
  have optional := @kind_of_optional_part stack
  have called := name_of_parts named
  have settle := parts_settle stack
  rw [order] at succeeds optional called settle ⊢
  obtain ⟨-, succeeds⟩ := List.forall_mem_cons.mp succeeds
  obtain ⟨first, optional⟩ := List.forall_mem_cons.mp optional
  refine keeps_of_attempts optional (apart_parts stack) (List.forall_mem_cons.mp called).2
    (List.forall_mem_cons.mp settle).2 succeeds part within untagged fun needed => ?_
  have installed := installs needed
  obtain ⟨items, state⟩ := exists_items_run installed.permanent
    (serve_reconcileManaged_asks first owner account.mutator.mutate account.desired account.enabled .unknown)
  exact ⟨state ▸ installed.of_items items, knows_after_attempt first installed.permanent (knows_unknown server)⟩

/-- A part that is wanted, and whose kind is installed, is kept after a pass that has succeeded: its labels have those
of all parts of the stack, and its mutator has no work. -/
theorem in_line_of_pass (live : stack.metadata.deletionTimestamp = none)
    (owned : Owner.ofObject .appStack stack = .ok owner) (named : stack.metadata.name = some name)
    (success : ((serve (pass stack)).run Server.handler server).result = .ok next) {part : Part}
    (within : part ∈ (parts stack).tail) (wanted : part.kind.isToggled = true → part.enabled = true)
    (installed : part.kind.isOptional = true → server.Installs part.kind) :
    ∃ left, ((serve (pass stack)).run Server.handler server).state.Keeps part.kind ⟨owner.namespaceName, name⟩ left ∧
      Merge.Within (some (selectorLabels stack)) left.metadata.labels ∧
      part.mutator.mutate.Quiet (part.wanted owner) left := by
  have metadata : (part.wanted owner).metadata =
      { partMetadata stack with namespaceName := some owner.namespaceName } := by
    have on : (part.kind.isToggled && !part.enabled) = false := by
      rw [Bool.and_eq_false_imp]
      exact fun toggled => by rw [wanted toggled, Bool.not_true]
    rw [Part.wanted, Object.ifEnabled, on, ← metadata_of_parts stack part (List.mem_of_mem_tail within)]
    rfl
  have untagged : (part.wanted owner).metadata.isTaggedForDeletion = false := by
    rw [metadata]
    rfl
  obtain ⟨left, keeps, settled⟩ := keeps_of_pass live owned named success part within untagged installed
  obtain ⟨follows, quiet⟩ := Reconcile.in_line_of_settled untagged settled
  rw [metadata] at follows
  exact ⟨left, keeps, follows, quiet⟩

/-- After a pass that has succeeded, whatever there was before, service, budget and monitor of the stack select what
they are for, and the pods of a stack of another name lack some label that the service asks for. -/
theorem parts_select_each_other (live : stack.metadata.deletionTimestamp = none)
    (success : ((serve (pass stack)).run Server.handler server).result = .ok next) :
    let left := ((serve (pass stack)).run Server.handler server).state
    ∃ place : Place, stack.metadata.namespaceName = some place.namespaceName ∧ stack.metadata.name = some place.name ∧
      ∃ (deployment : Object Deployment) (service : Object Service),
        left.Keeps .deployment place deployment ∧ left.Keeps .service place service ∧
        service.content.SelectsPodsOf deployment.content ∧
        (stack.content.spec.podDisruptionBudget = true →
          ∃ budget, left.Keeps .podDisruptionBudget place budget ∧ budget.content.SelectsPodsOf deployment.content) ∧
        (stack.content.spec.monitoring = true → server.Installs .serviceMonitor →
          ∃ monitor, left.Keeps .serviceMonitor place monitor ∧ monitor.content.Selects service) ∧
        ∀ other : Stack, other.nameAny ≠ stack.nameAny →
          ¬ Merge.Within service.content.specOrDefault.selector
            (AppStack.deployment other).content.podMetadata.labels := by
  intro left
  obtain ⟨owner, owned⟩ := owned_of_pass live success
  obtain ⟨within, name, named⟩ := ok_of_ofObject owned
  have kept {part : Part} (among : part ∈ (parts stack).tail) := in_line_of_pass live owned named success among
  obtain ⟨deployment, keepsDeployment, -, mutated⟩ := kept (.head _) nofun nofun
  obtain ⟨service, keepsService, labelled, replaced⟩ := kept (.tail _ (.head _)) nofun nofun
  have pods : Merge.Within (some (selectorLabels stack)) deployment.content.podMetadata.labels :=
    labels_of_quiet mutated
  obtain ⟨ports, selector⟩ := spec_of_quiet_service replaced
  change service.content.specOrDefault.selector = some (selectorLabels stack) at selector
  refine ⟨⟨owner.namespaceName, name⟩, within, named, deployment, service, keepsDeployment, keepsService, ?service,
    ?budget, ?monitor, ?apart⟩
  case service =>
    rw [Service.SelectsPodsOf, selector]
    exact selectsBy_selectorLabels pods
  case budget =>
    intro enabled
    obtain ⟨budget, keeps, -, quiet⟩ := kept (.tail _ (.tail _ (.head _))) (fun _ => enabled) nofun
    refine ⟨budget, keeps, podSelector stack, ?_, rfl, selectsBy_selectorLabels pods⟩
    rw [selector_of_quiet_budget quiet, Part.content_wanted]
    rfl
  case monitor =>
    intro enabled installed
    obtain ⟨monitor, keeps, -, quiet⟩ := kept (.tail _ (.tail _ (.tail _ (.head _)))) (fun _ => enabled)
      (fun _ => installed)
    have content : monitor.content = (serviceMonitor stack).content :=
      (content_of_quiet_monitor quiet).trans (Part.content_wanted owner _)
    exact ⟨monitor, keeps, content ▸ selects_of_labels labelled ports⟩
  case apart =>
    intro other differs
    rw [selector]
    exact labels_of_other differs

end Pass

/-- A stack of all parts meets a deployment that selects its pods by another label, a service for other pods and ports,
and a monitor that looks at nothing. -/
theorem parts_select_each_other_of_earlier_objects :
    let stack : Stack := ⟨{ name := some "shop", namespaceName := some "prod", uid := some "1" },
      ⟨{ image := "shop:1.0", port := 8080, podDisruptionBudget := true, monitoring := true }⟩⟩
    let metadata : ObjectMeta := { name := some "shop", namespaceName := some "prod", resourceVersion := some "7" }
    let deployment : Kind.deployment.Object := ⟨metadata, (Deployment.labelled "web").content⟩
    let service : Kind.service.Object := ⟨metadata,
      { spec := some { selector := some (.ofList [("app", "web")]), ports := some [{ port := 80 }] } }⟩
    let monitor : Kind.serviceMonitor.Object := ⟨metadata, ⟨⟨{}, []⟩⟩⟩
    let served : ServedGroup := ⟨"monitoring.coreos.com", [⟨"v1", [⟨"servicemonitors", "ServiceMonitor"⟩]⟩]⟩
    let server := (((⟨.empty, [served], [], []⟩ : Server).place ⟨.deployment, deployment⟩).place
      ⟨.service, service⟩).place ⟨.serviceMonitor, monitor⟩
    let run := (serve (pass stack)).run Server.handler server
    let shop : Place := ⟨"prod", "shop"⟩
    (run.result = .ok .interval ∧ server.Installs .serviceMonitor) ∧
      ∃ deployment service budget monitor, run.state.held .deployment shop = some deployment ∧
        run.state.held .service shop = some service ∧ run.state.held .podDisruptionBudget shop = some budget ∧
        run.state.held .serviceMonitor shop = some monitor ∧ service.content.SelectsPodsOf deployment.content ∧
        budget.content.SelectsPodsOf deployment.content ∧ monitor.content.Selects service := by
  intro stack metadata deployment service monitor served server run shop
  have isLive : IsLive stack "shop" "prod" "1" := ⟨rfl, rfl, rfl, rfl,
    ⟨⟨by decide, by decide, by decide, by decide⟩, ⟨by decide, by decide, by decide, by decide⟩⟩⟩
  have steady : server.IsSteady := ⟨nofun, nofun⟩
  have filed : server.IsFiled := Server.isFiled_place
    (Server.isFiled_place (Server.isFiled_place (Server.isFiled_empty [served] [] []) _) _) _
  have verdicts : firstFailure ((parts stack).map fun part =>
      (part.verdict (ownerOf "shop" "prod" "1") shop server).result) = .ok () := by decide +kernel
  have success : run.result = .ok .interval := by
    rw [result_pass isLive steady filed, verdicts]
    rfl
  have installs : server.Installs .serviceMonitor := ⟨nofun, by decide +kernel⟩
  obtain ⟨place, within, named, deployment, service, keepsDeployment, keepsService, selects, budget, monitor, -⟩ :=
    parts_select_each_other isLive.live success
  obtain rfl : place = shop := by
    obtain ⟨namespaceName, name⟩ := place
    cases within
    cases named
    rfl
  obtain ⟨budget, keepsBudget, budgeted⟩ := budget rfl
  obtain ⟨monitor, keepsMonitor, monitored⟩ := monitor rfl installs
  -- the place is proper, so what is kept under one of its paths is what is held there
  have held {kind : Kind} {object : kind.Object} (keeps : run.state.Keeps kind shop object) :
      run.state.held kind shop = some object :=
    (Server.keeps_iff_held (tidy_pass isLive steady filed).2.1 isLive.proper).mp keeps
  exact ⟨⟨success, installs⟩, deployment, service, budget, monitor, held keepsDeployment, held keepsService,
    held keepsBudget, held keepsMonitor, selects, budgeted, monitored⟩

end AppStack

end Reconciliation
