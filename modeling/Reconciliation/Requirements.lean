import Reconciliation.Object.Container
import Reconciliation.Quantity

/-! # Comparing resource requirements

Requirements are the same if they name the same resources with the same quantities, however these are
written, and list the same claims. Absent requirements are those with nothing set, and an absent list
of quantities is an empty one; the claims are compared as they are.
-/

namespace Reconciliation

/-- Whether two lists of quantities name the same resources with the same quantities. -/
def sameQuantities (a b : Option StringMap) : Bool :=
  let a := a.getD .empty
  let b := b.getD .empty
  a.size == b.size && a.entries.all fun (name, quantity) => (b.get? name).any (Quantity.same quantity)

namespace ResourceRequirements

/-- Whether two requirements are the same. -/
def same (a b : Option ResourceRequirements) : Bool :=
  let a := a.getD default
  let b := b.getD default
  sameQuantities a.limits b.limits && sameQuantities a.requests b.requests && a.claims == b.claims

end ResourceRequirements

end Reconciliation
