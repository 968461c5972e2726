import Reconciliation.Object.IntOrString
import Reconciliation.Object.Metadata

/-! # Disruption budgets

How many of the selected pods may be taken away at a time.
-/

namespace Reconciliation

/-- The pods of a budget and how many of them may be missing. -/
structure PodDisruptionBudgetSpec where
  maxUnavailable : Option IntOrString := none
  minAvailable : Option IntOrString := none
  selector : Option LabelSelector := none
  unhealthyPodEvictionPolicy : Option String := none
deriving DecidableEq, Inhabited

def PodDisruptionBudgetSpec.codec : Codec PodDisruptionBudgetSpec :=
  (Record.of PodDisruptionBudgetSpec PodDisruptionBudgetSpec.mk
    |>.optional "maxUnavailable" (·.maxUnavailable) IntOrString.codec
    |>.optional "minAvailable" (·.minAvailable) IntOrString.codec
    |>.optional "selector" (·.selector) LabelSelector.codec
    |>.optional "unhealthyPodEvictionPolicy" (·.unhealthyPodEvictionPolicy) .text).codec

/-- The content of a disruption budget. -/
structure PodDisruptionBudget where
  spec : Option PodDisruptionBudgetSpec := none
deriving DecidableEq, Inhabited

def PodDisruptionBudget.record : Record PodDisruptionBudget PodDisruptionBudget :=
  Record.of PodDisruptionBudget PodDisruptionBudget.mk
    |>.optional "spec" (·.spec) PodDisruptionBudgetSpec.codec

end Reconciliation
