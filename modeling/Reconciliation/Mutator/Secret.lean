import Reconciliation.Mutation
import Reconciliation.Text.Utf8

/-! # Mutators of secrets

Desired secrets give their values as texts. The server turns the texts into bytes when it stores a
secret, so the value that a secret has under a key is looked for among both, the text first.
-/

namespace Reconciliation.Secret

/-- The texts, none if they are absent. -/
def texts (secret : Secret) : StringMap := secret.stringData.getD .empty

/-- The bytes, none if they are absent. -/
def stored (secret : Secret) : SortedMap String (List UInt8) := secret.data.getD .empty

/-- The value under a key. -/
def value? (secret : Secret) (key : String) : Option String :=
  (secret.texts.get? key).or ((secret.stored.get? key).map Text.Utf8.decodeLossy)

/-- The values under all keys. -/
def values (secret : Secret) : StringMap :=
  (secret.stored.mapValues Text.Utf8.decodeLossy).overriddenBy secret.texts

/-- Set the text under a key. -/
def setText (secret : Secret) (key value : String) : Secret :=
  { secret with stringData := some (secret.texts.insert key value) }

/-- Add the text under a key, unless there is a value. -/
def addText (key value : String) (secret : Secret) : Edit Secret :=
  if (secret.value? key).isSome then .keep secret else ⟨secret.setText key value, true⟩

/-- Add the desired texts for which there are no values. Values that are there stay: they may be the
user's. -/
def addMissing (existing desired : Secret) : Edit Secret :=
  desired.texts.entries.foldl (fun edit (key, value) => edit.bind (addText key value)) (.keep existing)

/-- The value under one key becomes the desired text, which is empty if it is absent. -/
def followKey (key : String) (existing desired : Secret) : Edit Secret :=
  let wanted := (desired.texts.get? key).getD ""
  if existing.value? key = some wanted then .keep existing else ⟨existing.setText key wanted, true⟩

/-- The values become exactly the desired texts. -/
def followTexts (existing desired : Secret) : Edit Secret :=
  if existing.values = desired.texts then .keep existing
  else ⟨{ existing with data := none, stringData := some desired.texts }, true⟩

/-- The ways to govern the values of a secret. -/
inductive Rule
  | defaultsOnly
  | key (name : String)
  | stringData
deriving DecidableEq, Repr

def Rule.mutate : Rule → Mutate (Object Secret)
  | defaultsOnly => .ofContentEdit addMissing
  | key name => .ofContentEdit (followKey name)
  | stringData => .ofContentEdit followTexts

end Reconciliation.Secret
