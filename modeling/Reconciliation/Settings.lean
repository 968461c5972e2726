import Reconciliation.Text.Numeral

/-! # Settings

The settings come from named variables, each of which may be absent. The intervals are whole numbers of
seconds of at most 64 bits.
-/

namespace Reconciliation

/-- What an operator is told. -/
structure Settings where
  /-- The only namespace to watch; all if absent. -/
  watchNamespace : Option String
  /-- How many seconds to wait after a pass that did not fail. -/
  requeueInterval : Nat
  /-- How many seconds to wait after a pass that failed. -/
  errorRequeue : Nat
deriving DecidableEq, Repr

/-- A variable whose value is no number of seconds. -/
structure SettingsError where
  name : String
  value : String
  cause : Text.NumeralError
deriving DecidableEq, Repr

namespace Text.NumeralError

def message : NumeralError → String
  | empty => "cannot parse integer from empty string"
  | invalidDigit => "invalid digit found in string"
  | tooLarge => "number too large to fit in target type"

end Text.NumeralError

namespace SettingsError

def message (error : SettingsError) : String :=
  error.name ++ " must be a number of seconds, got '" ++ error.value ++ "': " ++ error.cause.message

end SettingsError

namespace Settings

/-- The greatest number of seconds. -/
def secondsLimit : Nat := UInt64.size - 1

def namespaceVariable : String := "WATCH_NAMESPACE"
def intervalVariable : String := "REQUEUE_INTERVAL_SECS"
def errorVariable : String := "ERROR_REQUEUE_SECS"

/-- The seconds that a variable gives, or the default if it is absent. -/
def seconds (lookup : String → Option String) (name : String) (byDefault : Nat) :
    Except SettingsError Nat :=
  match lookup name with
  | none => .ok byDefault
  | some value =>
      (Text.Numeral.unsigned secondsLimit value.toList).mapError fun cause => ⟨name, value, cause⟩

/-- The settings that variables give. An empty namespace is an absent one. -/
def read (lookup : String → Option String) : Except SettingsError Settings := do
  let requeueInterval ← seconds lookup intervalVariable 300
  let errorRequeue ← seconds lookup errorVariable 60
  return {
    watchNamespace := (lookup namespaceVariable).filter (!·.isEmpty)
    requeueInterval
    errorRequeue }

end Settings

end Reconciliation
