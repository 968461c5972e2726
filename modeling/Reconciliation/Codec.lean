import Reconciliation.Json
import Reconciliation.SortedMap
import Reconciliation.Text.Base64

/-! # Reading and writing values as JSON

A codec writes values of one type as JSON and reads them back. The codec of a structure is built
member by member with `Record`, so that the names and the treatment of absent members are said once
for both directions. There are four treatments:

* *optional*: absent and `null` are the same, and what is absent is left out;
* *lenient*: absent and `null` are read as the default, and the member is always written;
* *required*: the member has to be there;
* *defaulted*: an absent member is read as the default, `null` is refused, and the member is always
  written.

Members of other names are ignored. A structure whose codec is a `rowCodec` can also be read from a *row*,
the array of the values of its members in order. Only defaulted members may be missing from a row, and
only at its end; an optional member that is absent has to be there as `null`.
-/

namespace Reconciliation

/-- How values of a type are written and read. -/
structure Codec (α : Type) where
  encode : α → Json
  decode? : Json → Option α

namespace Codec

def text : Codec String where
  encode := .string
  decode?
    | .string value => some value
    | _ => none

def flag : Codec Bool where
  encode := .bool
  decode?
    | .bool value => some value
    | _ => none

/-- Integers of 32 bits. -/
def int32 : Codec Int32 where
  encode value := .integer value.toInt
  decode?
    | .integer value =>
        if Int32.minValue.toInt ≤ value ∧ value ≤ Int32.maxValue.toInt then some (.ofInt value) else none
    | _ => none

/-- Integers of 64 bits. -/
def int64 : Codec Int64 where
  encode value := .integer value.toInt
  decode?
    | .integer value =>
        if Int64.minValue.toInt ≤ value ∧ value ≤ Int64.maxValue.toInt then some (.ofInt value) else none
    | _ => none

/-- Bytes, written in base64; `null` is read as no bytes. -/
def bytes : Codec (List UInt8) where
  encode value := .string (Text.Base64.encode value)
  decode?
    | .string value => Text.Base64.decode? value
    | .null => some []
    | _ => none

def list {α : Type} (item : Codec α) : Codec (List α) where
  encode values := .array (values.map item.encode)
  decode?
    | .array items => items.mapM item.decode?
    | _ => none

/-- Maps from strings, written as objects. -/
def map {α : Type} (value : Codec α) : Codec (SortedMap String α) where
  encode entries := .object (entries.entries.map fun (name, a) => (name, value.encode a))
  decode?
    | .object members => do
        let entries ← members.mapM fun (name, json) => (value.decode? json).map (name, ·)
        return .ofList entries
    | _ => none

/-- Maps from strings to strings. -/
def stringMap : Codec StringMap := map text

end Codec

/-- The members that a value `σ` is written with, and what reading them yields: a value `α` that is
`σ` itself once all members are there. -/
structure Record (σ α : Type) where
  names : List String
  write : σ → List (String × Json)
  read? : (String → Option Json) → Option α
  /-- Read the members from the front of a row; what follows them in the row is kept. -/
  readRow? : List Json → Option (α × List Json)

namespace Record

variable {σ α β : Type}

/-- No members; `make` waits for theirs. -/
def of (σ : Type) (make : α) : Record σ α where
  names := []
  write _ := []
  read? _ := some make
  readRow? row := some (make, row)

/-- Add the member called `name`. It is written unless `write` gives nothing for it; `missing?` is what
it is when a row ends before it. -/
def member (record : Record σ (α → β)) (name : String) (get : σ → α) (write : α → Option Json)
    (read? : Option Json → Option α) (missing? : Option α) : Record σ β where
  names := record.names ++ [name]
  write value := record.write value ++ ((write (get value)).map (name, ·)).toList
  read? members := do
    let make ← record.read? members
    let value ← read? (members name)
    return make value
  readRow? row := do
    let (make, row) ← record.readRow? row
    match row with
    | [] =>
        let value ← missing?
        return (make value, [])
    | json :: row =>
        let value ← read? (some json)
        return (make value, row)

def optional (record : Record σ (Option α → β)) (name : String) (get : σ → Option α)
    (codec : Codec α) : Record σ β :=
  record.member name get (·.map codec.encode)
    (fun
      | none | some .null => some none
      | some json => (codec.decode? json).map some)
    none

def lenient [Inhabited α] (record : Record σ (α → β)) (name : String) (get : σ → α)
    (codec : Codec α) : Record σ β :=
  record.member name get (some ∘ codec.encode)
    (fun
      | none | some .null => some default
      | some json => codec.decode? json)
    none

def required (record : Record σ (α → β)) (name : String) (get : σ → α)
    (codec : Codec α) : Record σ β :=
  record.member name get (some ∘ codec.encode) (·.bind codec.decode?) none

def defaulted [Inhabited α] (record : Record σ (α → β)) (name : String) (get : σ → α)
    (codec : Codec α) : Record σ β :=
  record.member name get (some ∘ codec.encode)
    (fun
      | none => some default
      | some json => codec.decode? json)
    (some default)

/-- Read all members from a row that holds nothing else. -/
def ofRow? (record : Record σ α) (row : List Json) : Option α :=
  match record.readRow? row with
  | some (value, []) => some value
  | _ => none

/-- The codec of a structure whose members are complete. -/
def codec (record : Record α α) : Codec α where
  encode value := .object (record.write value)
  decode?
    | .object members => record.read? fun name => members.lookup name
    | _ => none

/-- The codec of a structure that can also be read from a row. -/
def rowCodec (record : Record α α) : Codec α where
  encode := record.codec.encode
  decode?
    | .array row => record.ofRow? row
    | json => record.codec.decode? json

end Record

end Reconciliation
