import Reconciliation.Mutator
import Reconciliation.Operator

/-! # The objects of an app stack

Everything that an app stack consists of has its name and namespace and carries the same labels, by
which service, budget and monitor select what they are for.
-/

namespace Reconciliation.AppStack

/-- An app stack with its metadata. -/
abbrev Stack : Type := Object AppStack

/-- The name of the one port of a stack. -/
def portName : String := "http"

def metricsPath : String := "/metrics"

/-- The labels of every object of a stack, by which its pods are selected too. -/
def selectorLabels (stack : Stack) : StringMap :=
  .ofList [("app.kubernetes.io/name", stack.nameAny), ("app.kubernetes.io/managed-by", operatorName)]

/-- The metadata of every object of a stack. -/
def partMetadata (stack : Stack) : ObjectMeta where
  name := some stack.nameAny
  namespaceName := stack.metadata.namespaceName
  labels := some (selectorLabels stack)

/-- The selector of the pods of a stack. -/
def podSelector (stack : Stack) : LabelSelector where
  matchLabels := some (selectorLabels stack)

def serviceAccount (stack : Stack) : Object ServiceAccount where
  metadata := partMetadata stack
  content := {}

/-- The one container of a stack. -/
def container (stack : Stack) : Container where
  name := stack.nameAny
  image := some stack.content.spec.image
  ports := some [{ name := some portName, containerPort := stack.content.spec.port }]

def deployment (stack : Stack) : Object Deployment where
  metadata := partMetadata stack
  content.spec := some {
    replicas := stack.content.spec.replicas
    selector := podSelector stack
    template := {
      metadata := some { labels := some (selectorLabels stack) }
      spec := some { serviceAccountName := some stack.nameAny, containers := [container stack] } } }

def service (stack : Stack) : Object Service where
  metadata := partMetadata stack
  content.spec := some {
    selector := some (selectorLabels stack)
    ports := some [{
      name := some portName
      port := stack.content.spec.port
      protocol := some "TCP"
      targetPort := some (.string portName) }] }

/-- At least one pod stays up. -/
def podDisruptionBudget (stack : Stack) : Object PodDisruptionBudget where
  metadata := partMetadata stack
  content.spec := some { minAvailable := some (.int 1), selector := some (podSelector stack) }

def serviceMonitor (stack : Stack) : Object ServiceMonitor where
  metadata := partMetadata stack
  content.spec := {
    selector := { matchLabels := some (selectorLabels stack) }
    endpoints := [{ port := some portName, path := some metricsPath }] }

/-- A desired object, what governs it, and whether it is enabled. -/
structure Part where
  kind : Kind
  desired : kind.Object
  mutator : Mutator kind
  enabled : Bool

/-- The rules for most deployments, then the number of pods, then no repeated variables. -/
def deploymentMutator : Mutator .deployment :=
  .chain <| (Deployment.genericRules ++ [Deployment.Rule.replicas, .removeDuplicateEnvVars]).map
    (@Mutator.rule .deployment)

def serviceMutator : Mutator .service :=
  .chain [@Mutator.rule .service .ports, @Mutator.rule .service .selector]

/-- What a stack consists of, in the order in which it is reconciled. -/
def parts (stack : Stack) : List Part :=
  [⟨.serviceAccount, serviceAccount stack, @Mutator.rule .serviceAccount .imagePullSecrets, true⟩,
    ⟨.deployment, deployment stack, deploymentMutator, true⟩,
    ⟨.service, service stack, serviceMutator, true⟩,
    ⟨.podDisruptionBudget, podDisruptionBudget stack, @Mutator.rule .podDisruptionBudget .spec,
      stack.content.spec.podDisruptionBudget⟩,
    ⟨.serviceMonitor, serviceMonitor stack, @Mutator.rule .serviceMonitor .spec,
      stack.content.spec.monitoring⟩]

end Reconciliation.AppStack
