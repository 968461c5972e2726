import Reconciliation.Mutator.Content
import Reconciliation.Mutator.Deployment
import Reconciliation.Mutator.ImageStream
import Reconciliation.Mutator.Secret
import Reconciliation.Mutator.ServiceAccount

/-! # Mutators as data

A `Mutator` describes the mutator of a kind: a rule of that kind, one that never touches anything, one
that always refuses, or a chain of others. `Mutator.mutate` is what it does.
-/

namespace Reconciliation

/-- The rules of a kind. -/
abbrev Kind.Rule : Kind → Type
  | configMap => ConfigMap.Rule
  | deployment => Deployment.Rule
  | horizontalPodAutoscaler => HorizontalPodAutoscaler.Rule
  | imageStream => ImageStream.Rule
  | podDisruptionBudget => PodDisruptionBudget.Rule
  | role => Role.Rule
  | roleBinding => RoleBinding.Rule
  | secret => Secret.Rule
  | service => Service.Rule
  | serviceAccount => ServiceAccount.Rule
  | grafanaDashboard | podMonitor | prometheusRule | serviceMonitor => SpecRule
  | appStack | persistentVolumeClaim | route => Empty

/-- The mutator of a rule. -/
def Kind.applyRule : (kind : Kind) → kind.Rule → Mutate kind.Object
  | configMap, rule => ConfigMap.Rule.mutate rule
  | deployment, rule => Deployment.Rule.mutate rule
  | horizontalPodAutoscaler, rule => HorizontalPodAutoscaler.Rule.mutate rule
  | imageStream, rule => ImageStream.Rule.mutate rule
  | podDisruptionBudget, rule => PodDisruptionBudget.Rule.mutate rule
  | role, rule => Role.Rule.mutate rule
  | roleBinding, rule => RoleBinding.Rule.mutate rule
  | secret, rule => Secret.Rule.mutate rule
  | service, rule => Service.Rule.mutate rule
  | serviceAccount, rule => ServiceAccount.Rule.mutate rule
  | grafanaDashboard, rule => @SpecRule.mutate GrafanaDashboard _ rule
  | podMonitor, rule => @SpecRule.mutate PodMonitor _ rule
  | prometheusRule, rule => @SpecRule.mutate PrometheusRule _ rule
  | serviceMonitor, rule => @SpecRule.mutate ServiceMonitor _ rule
  | appStack, rule | persistentVolumeClaim, rule | route, rule => Empty.elim rule

/-- A description of a mutator. -/
inductive Mutator (kind : Kind)
  | createOnly
  /-- Refuse with a reason. -/
  | refuse (reason : String)
  | rule (governed : kind.Rule)
  | chain (members : List (Mutator kind))

namespace Mutator

variable {kind : Kind}

mutual

/-- What a mutator does. -/
def mutate : Mutator kind → Mutate kind.Object
  | createOnly => .createOnly
  | refuse reason => fun existing _ => .refused existing (.invariantViolation kind.name reason)
  | rule governed => kind.applyRule governed
  | chain members => .chain (mutateEach members)

/-- What the members of a chain do. -/
def mutateEach : List (Mutator kind) → List (Mutate kind.Object)
  | [] => []
  | first :: rest => first.mutate :: mutateEach rest

end

theorem mutateEach_eq_map (members : List (Mutator kind)) :
    mutateEach members = members.map mutate := by
  induction members with
  | nil => rfl
  | cons first rest ih => simp [mutateEach, ih]

/-- The chain of the rules for most deployments. -/
def genericDeployment : Mutator .deployment :=
  .chain (Deployment.genericRules.map (@Mutator.rule .deployment))

end Mutator

end Reconciliation
