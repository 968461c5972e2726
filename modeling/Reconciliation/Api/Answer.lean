import Reconciliation.Api.Request
import Reconciliation.Json.Printer

/-! # Reading what the server answers

An answer is a text, which is read as what the request asked for. What was sent can be something else: an
object of another kind that lies under the path, or a rejection whose code is not one of an error. Some
kinds of objects can be read from those of other kinds; otherwise the first defect in the order of the text
is what reading fails for. The server writes members in the order of their names and no blanks between
values.
-/

namespace Reconciliation

/-- A refusal as it is sent. -/
def ApiStatus.encode (refusal : ApiStatus) : Json :=
  .object [("apiVersion", .string "v1"), ("code", .integer refusal.code), ("kind", .string "Status"),
    ("message", .string refusal.message), ("metadata", .object []), ("reason", .string refusal.reason),
    ("status", .string refusal.status)]

namespace Api

/-- What an answer is read as: an object of a kind, or a list of what is served. -/
inductive AnswerType
  | object (kind : Kind)
  | groupList
  | versionList
  | resourceList
deriving DecidableEq, Repr

/-- What the success of a request is read as. -/
def Request.answerType : Request → AnswerType
  | read kind _ | remove kind _ _ => .object kind
  | create _ resource | replace _ resource => .object resource.kind
  | listGroups => .groupList
  | listCoreVersions => .versionList
  | listGroupResources .. | listCoreResources _ => .resourceList

namespace AnswerType

/-- The `apiVersion` that an answer has to have, if it has one. -/
def apiVersion : AnswerType → String
  | object kind => kind.apiVersion
  | groupList | versionList | resourceList => "v1"

/-- The `kind` that an answer has to have, if it has one. -/
def name : AnswerType → String
  | object kind => kind.name
  | groupList => "APIGroupList"
  | versionList => "APIVersions"
  | resourceList => "APIResourceList"

/-- Whether `apiVersion` and `kind` of an answer are not looked at. -/
def isCustom : AnswerType → Bool
  | object kind => kind.isCustom
  | groupList | versionList | resourceList => false

/-- The member of an answer that maps to bytes and is written in front of its kind. -/
def bytesMember? : AnswerType → Option String
  | object .secret => some "data"
  | _ => none

end AnswerType

/-- A defect of the part of an answer that the names of members lead to. -/
structure LocatedDefect where
  path : List String
  defect : Defect
deriving DecidableEq, Repr

namespace LocatedDefect

/-- The member called `name` is a text, but not the expected one. -/
def ofText? (name expected : String) (json : Json) : Option LocatedDefect :=
  match json.member? name with
  | some (.string found) =>
      if found = expected then none else some ⟨[name], .wrongText found expected⟩
  | _ => none

/-- The entry of the member called `name` is a text, but not base64. -/
def ofBytes? (name key : String) : Json → Option LocatedDefect
  | .string text =>
      match Text.Base64.decode text with
      | .error problem => some ⟨[name, key], .malformedBytes problem⟩
      | .ok _ => none
  | _ => none

/-- The first entry of the member called `name` that is a text, but not base64. -/
def ofEntries? (name : String) (json : Json) : Option LocatedDefect :=
  match json.member? name with
  | some (.object entries) => entries.findSome? fun (key, value) => ofBytes? name key value
  | _ => none

/-- The first defect of an answer that cannot be read. If its members are not to blame, one is missing. -/
def first (type : AnswerType) (json : Json) : LocatedDefect :=
  let members :=
    if type.isCustom then none
    else
      ((ofText? "apiVersion" type.apiVersion json).or
        (type.bytesMember?.bind (ofEntries? · json))).or
        (ofText? "kind" type.name json)
  members.getD ⟨[], .missingMember "spec"⟩

end LocatedDefect

/-- The failure to read an answer. -/
def unreadable (type : AnswerType) (json : Json) : RequestFailure :=
  let first := LocatedDefect.first type json
  .unreadable first.defect ⟨1, json.endColumn first.path⟩

/-- Take what the server has sent for an object of a kind. -/
def readAs (kind : Kind) (resource : Resource) : Except Failure kind.Object :=
  match (resource.as? kind).or (kind.codec.decode? resource.encode) with
  | some object => .ok object
  | none => .error (.request (unreadable (.object kind) resource.encode))

/-- An object of the wanted kind is taken as it is. -/
@[simp] theorem readAs_same (kind : Kind) (object : kind.Object) :
    readAs kind ⟨kind, object⟩ = .ok object := by simp [readAs]

/-! ## Texts that are no values -/

namespace PlainText

/-- The words that are values, by their first letters. -/
def word? : Char → Option String
  | 'n' => some "null"
  | 't' => some "true"
  | 'f' => some "false"
  | _ => none

/-- How many characters two texts have in common at their starts. -/
def commonLength : List Char → List Char → Nat
  | a :: as, b :: bs => if a = b then commonLength as bs + 1 else 0
  | _, _ => 0

def isBlank (c : Char) : Bool := c = ' ' || c = '\t' || c = '\n' || c = '\r'

/-- How many characters of a text could be those of a value with blanks in front. -/
def acceptedLength (text : List Char) : Nat :=
  let blanks := (text.takeWhile isBlank).length
  match text.drop blanks with
  | [] => blanks
  | c :: rest => blanks + ((word? c).map fun word => commonLength word.toList (c :: rest)).getD 0

/-- What keeps a text from being a value. -/
def defect (text : List Char) : Defect :=
  if acceptedLength text = text.length then .unfinished
  else if (text.take (acceptedLength text)).all isBlank then .noValue
  else .unknownWord

/-- The position behind a number of characters of a text. -/
def positionAfter (count : Nat) (text : List Char) : Position :=
  let read := text.take count
  { line := 1 + read.count '\n'
    column := (String.ofList (read.reverse.takeWhile (· != '\n'))).utf8ByteSize }

/-- The failure to read a text that is no value. The first byte that does not fit is the last one read. -/
def unreadable (text : List Char) : RequestFailure :=
  let position := positionAfter (acceptedLength text) text
  match defect text with
  | .unfinished => .unreadable .unfinished position
  | defect => .unreadable defect { position with column := position.column + 1 }

end PlainText

/-- The failure that a rejection is when the answer is read. -/
def Rejection.failure (type : AnswerType) (rejection : Rejection) : RequestFailure :=
  if rejection.isError then .refused rejection.toStatus
  else
    match rejection with
    | status refusal => unreadable type refusal.encode
    | text _ body => PlainText.unreadable body.toList

end Api

end Reconciliation
