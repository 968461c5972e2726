import Reconciliation.Merge
import Reconciliation.Object.Metadata

/-! # Identity and labels

An existing object takes over the name and namespace of the desired one, and its labels and
annotations are merged in. Labels and annotations that the desired object does not mention stay.
-/

namespace Reconciliation.ObjectMeta

/-- Bring metadata in line with the desired ones. -/
def follow (existing desired : ObjectMeta) : Edit ObjectMeta :=
  ((Edit.replace existing.name desired.name).map fun name => { existing with name })
    |>.bind (fun metadata =>
      (Edit.replace metadata.namespaceName desired.namespaceName).map fun namespaceName =>
        { metadata with namespaceName })
    |>.bind (fun metadata =>
      (Merge.merge metadata.labels desired.labels).map fun labels => { metadata with labels })
    |>.bind (fun metadata =>
      (Merge.merge metadata.annotations desired.annotations).map fun annotations =>
        { metadata with annotations })

end Reconciliation.ObjectMeta
