import Reconciliation.Api.Target
import Reconciliation.Text.Base64
import Reconciliation.Text.Quoted

/-! # What can go wrong

An `ApiStatus` is a refusal by the server of the cluster, a `Defect` a reason why an answer of the server
cannot be read, a `RequestFailure` any way in which asking the server fails, and a `Failure` any way in
which reconciling an object fails. Each has its text.
-/

namespace Reconciliation

/-- A refusal by the server. -/
structure ApiStatus where
  status : String := "Failure"
  message : String
  reason : String
  code : Nat
deriving DecidableEq, Repr

namespace ApiStatus

/-- The refusal with a standard message, made of its reason and code. -/
def ofReason (code : Nat) (reason : String) : ApiStatus where
  message := reason ++ " (" ++ toString code ++ ")"
  reason := reason
  code := code

/-- The object asked for does not exist. -/
def notFound (message : String) : ApiStatus where
  message := message
  reason := "NotFound"
  code := 404

/-- There is an object where one should be created. -/
def alreadyExists (message : String) : ApiStatus where
  message := message
  reason := "AlreadyExists"
  code := 409

/-- The object has been written since the version that an update names. -/
def conflict (message : String) : ApiStatus where
  message := message
  reason := "Conflict"
  code := 409

/-- The text of a refusal: message and reason, and then all parts with the strings quoted. -/
def text (refusal : ApiStatus) : String :=
  "ApiError: " ++ refusal.message ++ ": " ++ refusal.reason ++ " (ErrorResponse \x7b status: " ++
    Text.Quoted.encode refusal.status ++ ", message: " ++ Text.Quoted.encode refusal.message ++
    ", reason: " ++ Text.Quoted.encode refusal.reason ++ ", code: " ++ toString refusal.code ++ " \x7d)"

end ApiStatus

/-- What keeps an answer from being read as what was asked for. -/
inductive Defect
  /-- A text is not the one that has to be there. -/
  | wrongText (found expected : String)
  /-- A text is not base64. -/
  | malformedBytes (problem : Text.Base64.Problem)
  /-- A member that an object has to have is not there. -/
  | missingMember (name : String)
  /-- The answer ends before a value does. -/
  | unfinished
  /-- No value starts like that. -/
  | noValue
  /-- A word that starts like one that is a value goes on in another way. -/
  | unknownWord
deriving DecidableEq, Repr

def Defect.text : Defect → String
  | wrongText found expected =>
      "invalid value: string " ++ Text.Quoted.encode found ++ ", expected " ++ expected
  | malformedBytes problem => problem.text
  | missingMember name => "missing field \x60" ++ name ++ "\x60"
  | unfinished => "EOF while parsing a value"
  | noValue => "expected value"
  | unknownWord => "expected ident"

/-- A position in a text: the number of a line, and how many bytes of the line come before. -/
structure Position where
  line : Nat
  column : Nat
deriving DecidableEq, Repr

/-- Why asking the server failed. -/
inductive RequestFailure
  /-- The server refused the request. -/
  | refused (refusal : ApiStatus)
  /-- The server lists a group without any version. -/
  | emptyApiGroup (group : String)
  /-- A request for one object has to name it; this one is not sent. -/
  | emptyName
  /-- A request about an object has an address that it cannot be sent to. -/
  | invalidAddress (problem : Api.Target.Problem)
  /-- A request about what the server serves has an address that it cannot be sent to. -/
  | invalidDiscoveryAddress (problem : Api.Target.Problem)
  /-- The answer cannot be read, which is found at a position of its text. -/
  | unreadable (defect : Defect) (position : Position)
deriving DecidableEq, Repr

def RequestFailure.text : RequestFailure → String
  | refused refusal => refusal.text
  | emptyApiGroup group => "Error from discovery: Empty Api Group: " ++ group
  | emptyName => "Failed to build request: failed to validate request: A non-empty name is required"
  | invalidAddress problem => "Failed to build request: failed to build request: " ++ problem.text
  | invalidDiscoveryAddress problem => "HttpError: " ++ problem.text
  | unreadable defect position =>
      "Error deserializing response: " ++ defect.text ++ " at line " ++ toString position.line ++
        " column " ++ toString position.column

/-- Why reconciling an object failed. -/
inductive Failure
  | request (cause : RequestFailure)
  /-- The object has another controller. -/
  | ownershipConflict (kind namespaceName name controller : String)
  | invalidOwner (reason : String)
  | invalidObject (kind reason : String)
  /-- It is unknown whether the cluster serves the kind. -/
  | capabilityProbe (groupVersion kind : String) (cause : RequestFailure)
  /-- Existing and desired object do not fit together. -/
  | invariantViolation (object reason : String)
deriving DecidableEq, Repr

namespace Failure

/-- The server refused a request. -/
abbrev refused (refusal : ApiStatus) : Failure := request (.refused refusal)

def message : Failure → String
  | request cause => "Kubernetes API error: " ++ cause.text
  | ownershipConflict kind namespaceName name controller =>
      kind ++ " " ++ namespaceName ++ "/" ++ name ++ " is already controlled by " ++ controller
  | invalidOwner reason => "Invalid owner: " ++ reason
  | invalidObject kind reason => "Invalid " ++ kind ++ " object: " ++ reason
  | capabilityProbe groupVersion kind cause =>
      "Failed to discover " ++ kind ++ " in " ++ groupVersion ++ ": " ++ cause.text
  | invariantViolation object reason => "Refusing to reconcile " ++ object ++ ": " ++ reason

/-- Whether the server refused a request with the given code. -/
def hasCode (code : Nat) : Failure → Bool
  | request (.refused refusal) => refusal.code == code
  | _ => false

/-- Whether the server refused a write because the object was not as expected. -/
def isConflict : Failure → Bool := hasCode 409

def isNotFound : Failure → Bool := hasCode 404

end Failure

end Reconciliation
