import Reconciliation.Merge
import Reconciliation.Mutation

/-! # Mutators of single fields

For most kinds a rule makes one field, or a few fields of the specification, equal to the desired ones.
-/

namespace Reconciliation

namespace ConfigMap

def followData (existing desired : ConfigMap) : Edit ConfigMap :=
  (Edit.replace existing.data desired.data).map fun data => { existing with data }

/-- Add the desired entries whose keys are missing. -/
def addMissingData (existing desired : ConfigMap) : Edit ConfigMap :=
  (Merge.addMissing existing.data desired.data).map fun data => { existing with data }

def followImmutable (existing desired : ConfigMap) : Edit ConfigMap :=
  (Edit.replace existing.immutable desired.immutable).map fun immutable => { existing with immutable }

inductive Rule
  | data
  | dataDefaults
  | immutable
deriving DecidableEq, Repr

def Rule.mutate : Rule → Mutate (Object ConfigMap)
  | data => .ofContentEdit followData
  | dataDefaults => .ofContentEdit addMissingData
  | immutable => .ofContentEdit followImmutable

end ConfigMap

namespace Service

/-- The specification, with defaults if it is absent. -/
def specOrDefault (service : Service) : ServiceSpec := service.spec.getD default

def followPorts (existing desired : Service) : Edit Service :=
  (Edit.replace existing.specOrDefault.ports desired.specOrDefault.ports).map fun ports =>
    { spec := some { existing.specOrDefault with ports } }

def followSelector (existing desired : Service) : Edit Service :=
  (Edit.replace existing.specOrDefault.selector desired.specOrDefault.selector).map fun selector =>
    { spec := some { existing.specOrDefault with selector } }

inductive Rule
  | ports
  | selector
deriving DecidableEq, Repr

def Rule.mutate : Rule → Mutate (Object Service)
  | ports => .ofContentEdit followPorts
  | selector => .ofContentEdit followSelector

end Service

namespace Role

def followRules (existing desired : Role) : Edit Role :=
  (Edit.replace existing.rules desired.rules).map fun rules => { existing with rules }

inductive Rule
  | rules
deriving DecidableEq, Repr

def Rule.mutate : Rule → Mutate (Object Role)
  | rules => .ofContentEdit followRules

end Role

namespace RoleBinding

def followSubjects (existing desired : RoleBinding) : Edit RoleBinding :=
  (Edit.replace existing.subjects desired.subjects).map fun subjects => { existing with subjects }

def followRoleRef (existing desired : RoleBinding) : Edit RoleBinding :=
  (Edit.replace existing.roleRef desired.roleRef).map fun roleRef => { existing with roleRef }

inductive Rule
  | subjects
  | roleRef
deriving DecidableEq, Repr

def Rule.mutate : Rule → Mutate (Object RoleBinding)
  | subjects => .ofContentEdit followSubjects
  | roleRef => .ofContentEdit followRoleRef

end RoleBinding

namespace PodDisruptionBudget

/-- The bounds and the selector follow; how unhealthy pods are evicted does not. -/
def followSpec (existing desired : PodDisruptionBudget) : Edit PodDisruptionBudget :=
  let wanted := desired.spec.getD default
  ((Edit.keep (existing.spec.getD default)).bind fun spec =>
      (Edit.replace spec.minAvailable wanted.minAvailable).map fun minAvailable =>
        { spec with minAvailable })
    |>.bind (fun spec =>
      (Edit.replace spec.maxUnavailable wanted.maxUnavailable).map fun maxUnavailable =>
        { spec with maxUnavailable })
    |>.bind (fun spec =>
      (Edit.replace spec.selector wanted.selector).map fun selector => { spec with selector })
    |>.map (fun spec => { spec := some spec })

inductive Rule
  | spec
deriving DecidableEq, Repr

def Rule.mutate : Rule → Mutate (Object PodDisruptionBudget)
  | spec => .ofContentEdit followSpec

end PodDisruptionBudget

namespace HorizontalPodAutoscaler

/-- The bounds and the measurements follow; what is scaled does not. -/
def followSpec (existing desired : HorizontalPodAutoscaler) : Edit HorizontalPodAutoscaler :=
  let wanted := desired.spec.getD default
  ((Edit.keep (existing.spec.getD default)).bind fun spec =>
      (Edit.replace spec.minReplicas wanted.minReplicas).map fun minReplicas => { spec with minReplicas })
    |>.bind (fun spec =>
      (Edit.replace spec.maxReplicas wanted.maxReplicas).map fun maxReplicas => { spec with maxReplicas })
    |>.bind (fun spec => (Edit.replace spec.metrics wanted.metrics).map fun metrics => { spec with metrics })
    |>.map (fun spec => { spec := some spec })

inductive Rule
  | spec
deriving DecidableEq, Repr

def Rule.mutate : Rule → Mutate (Object HorizontalPodAutoscaler)
  | spec => .ofContentEdit followSpec

end HorizontalPodAutoscaler

/-- The only rule of the kinds for monitoring: the specification is replaced as a whole. -/
inductive SpecRule
  | spec
deriving DecidableEq, Repr

/-- The mutator that makes the whole content equal to the desired one. -/
def SpecRule.mutate {α : Type} [DecidableEq α] : SpecRule → Mutate (Object α)
  | spec => .ofContentEdit Edit.replace

end Reconciliation
