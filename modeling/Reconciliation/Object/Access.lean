import Reconciliation.Codec

/-! # Accounts and roles

The accounts that pods run as, and what they are allowed to do.
-/

namespace Reconciliation

/-- An object of the same namespace. -/
structure LocalObjectReference where
  name : String
deriving DecidableEq, Inhabited

def LocalObjectReference.codec : Codec LocalObjectReference :=
  (Record.of LocalObjectReference LocalObjectReference.mk
    |>.lenient "name" (·.name) .text).codec

/-- An object of some kind and namespace. -/
structure ObjectReference where
  kind : Option String := none
  name : Option String := none
  namespaceName : Option String := none
deriving DecidableEq, Inhabited

def ObjectReference.codec : Codec ObjectReference :=
  (Record.of ObjectReference ObjectReference.mk
    |>.optional "kind" (·.kind) .text
    |>.optional "name" (·.name) .text
    |>.optional "namespace" (·.namespaceName) .text).codec

/-- The content of a service account. -/
structure ServiceAccount where
  automountServiceAccountToken : Option Bool := none
  /-- Secrets with the credentials for pulling images. -/
  imagePullSecrets : Option (List LocalObjectReference) := none
  secrets : Option (List ObjectReference) := none
deriving DecidableEq, Inhabited

def ServiceAccount.record : Record ServiceAccount ServiceAccount :=
  Record.of ServiceAccount ServiceAccount.mk
    |>.optional "automountServiceAccountToken" (·.automountServiceAccountToken) .flag
    |>.optional "imagePullSecrets" (·.imagePullSecrets) (.list LocalObjectReference.codec)
    |>.optional "secrets" (·.secrets) (.list ObjectReference.codec)

/-- Verbs that are allowed on resources. -/
structure PolicyRule where
  apiGroups : Option (List String) := none
  nonResourceURLs : Option (List String) := none
  resourceNames : Option (List String) := none
  resources : Option (List String) := none
  verbs : List String
deriving DecidableEq, Inhabited

def PolicyRule.codec : Codec PolicyRule :=
  (Record.of PolicyRule PolicyRule.mk
    |>.optional "apiGroups" (·.apiGroups) (.list .text)
    |>.optional "nonResourceURLs" (·.nonResourceURLs) (.list .text)
    |>.optional "resourceNames" (·.resourceNames) (.list .text)
    |>.optional "resources" (·.resources) (.list .text)
    |>.lenient "verbs" (·.verbs) (.list .text)).codec

/-- The content of a role. -/
structure Role where
  rules : Option (List PolicyRule) := none
deriving DecidableEq, Inhabited

def Role.record : Record Role Role :=
  Record.of Role Role.mk
    |>.optional "rules" (·.rules) (.list PolicyRule.codec)

/-- The role that a binding grants. -/
structure RoleRef where
  apiGroup : String
  kind : String
  name : String
deriving DecidableEq, Inhabited

def RoleRef.codec : Codec RoleRef :=
  (Record.of RoleRef RoleRef.mk
    |>.lenient "apiGroup" (·.apiGroup) .text
    |>.lenient "kind" (·.kind) .text
    |>.lenient "name" (·.name) .text).codec

/-- An account that a binding grants a role to. -/
structure Subject where
  apiGroup : Option String := none
  kind : String
  name : String
  namespaceName : Option String := none
deriving DecidableEq, Inhabited

def Subject.codec : Codec Subject :=
  (Record.of Subject Subject.mk
    |>.optional "apiGroup" (·.apiGroup) .text
    |>.lenient "kind" (·.kind) .text
    |>.lenient "name" (·.name) .text
    |>.optional "namespace" (·.namespaceName) .text).codec

/-- The content of a role binding. -/
structure RoleBinding where
  roleRef : RoleRef
  subjects : Option (List Subject) := none
deriving DecidableEq, Inhabited

def RoleBinding.record : Record RoleBinding RoleBinding :=
  Record.of RoleBinding RoleBinding.mk
    |>.lenient "roleRef" (·.roleRef) RoleRef.codec
    |>.optional "subjects" (·.subjects) (.list Subject.codec)

end Reconciliation
