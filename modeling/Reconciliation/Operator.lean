/-! # The operator

The name under which objects are written, and which their labels carry.
-/

namespace Reconciliation

def operatorName : String := "steward"

end Reconciliation
