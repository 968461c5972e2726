import Reconciliation.Object.Metadata

/-! # Places of objects

The namespace and name of an object tell it from the others of its kind.
-/

namespace Reconciliation

/-- Where an object is among those of its kind. -/
structure Place where
  namespaceName : String
  name : String
deriving DecidableEq, Repr

namespace Place

/-- Places are ordered by namespace, and by name within a namespace. -/
instance : Ord Place := ⟨compareLex (compareOn (·.namespaceName)) (compareOn (·.name))⟩

instance : Std.TransOrd Place :=
  inferInstanceAs <| Std.TransCmp <|
    compareLex (compareOn (fun place : Place => place.namespaceName)) (compareOn (fun place => place.name))

instance : Std.LawfulEqOrd Place where
  eq_of_compare {a b} same := by
    obtain ⟨namespaceName, name⟩ := a
    obtain ⟨other, label⟩ := b
    have parts : (compare namespaceName other).then (compare name label) = .eq := same
    rw [Ordering.then_eq_eq] at parts
    rw [Std.LawfulEqOrd.eq_of_compare parts.1, Std.LawfulEqOrd.eq_of_compare parts.2]

end Place

/-- The place of an object according to its own metadata. -/
def ObjectMeta.place (metadata : ObjectMeta) : Place := ⟨metadata.namespaceOrEmpty, metadata.nameAny⟩

end Reconciliation
