import Reconciliation.Object.Metadata

/-! # The tag of objects that must not exist

A desired object is tagged for deletion by an annotation. Another annotation may say what happens to
the objects that are subordinate to it; if it says nothing known, the server decides.
-/

namespace Reconciliation

/-- What happens to the objects that are subordinate to a deleted one. -/
inductive PropagationPolicy
  /-- They stay. -/
  | orphan
  /-- They are deleted afterwards. -/
  | background
  /-- They are deleted first. -/
  | foreground
deriving DecidableEq, Repr

namespace PropagationPolicy

def name : PropagationPolicy → String
  | orphan => "Orphan"
  | background => "Background"
  | foreground => "Foreground"

def ofName? (name : String) : Option PropagationPolicy :=
  [orphan, background, foreground].find? fun policy => policy.name == name

end PropagationPolicy

namespace DeletionTag

/-- The annotation that tags an object if its value is `true`. -/
def annotation : String := "steward.dev/delete"

/-- The annotation that names the policy. -/
def policyAnnotation : String := "steward.dev/delete-propagation-policy"

end DeletionTag

namespace ObjectMeta

/-- Set an annotation. -/
def annotate (metadata : ObjectMeta) (name value : String) : ObjectMeta :=
  { metadata with annotations := some ((metadata.annotations.getD .empty).insert name value) }

def annotation? (metadata : ObjectMeta) (name : String) : Option String :=
  metadata.annotations.bind (·.get? name)

/-- Tag an object for deletion, with a policy if one is given. -/
def tagForDeletion (metadata : ObjectMeta) (policy : Option PropagationPolicy) : ObjectMeta :=
  let tagged := metadata.annotate DeletionTag.annotation "true"
  match policy with
  | none => tagged
  | some policy => tagged.annotate DeletionTag.policyAnnotation policy.name

def isTaggedForDeletion (metadata : ObjectMeta) : Bool :=
  metadata.annotation? DeletionTag.annotation == some "true"

/-- The policy that the annotations name. -/
def deletionPolicy? (metadata : ObjectMeta) : Option PropagationPolicy :=
  (metadata.annotation? DeletionTag.policyAnnotation).bind PropagationPolicy.ofName?

end ObjectMeta

end Reconciliation
