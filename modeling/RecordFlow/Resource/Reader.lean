import RecordFlow.Json.Reader
import RecordFlow.Resource.Basic

/-! # Reading resources

A resource is read from an object with the fields `resourceType`, `metadata`
and `data`, the last two of which may be absent, or from an array of the three
values in this order. Fields with other names are stepped over.
-/

namespace RecordFlow.Resource

open Json (readItems readMember readValue skipSpace skipValue)

inductive Field where
  | resourceType (value : String)
  | metadata (value : Option (Dict Json))
  | records (value : List Record)

structure Fields where
  resourceType : Option String
  metadata : Option (Option (Dict Json))
  records : Option (List Record)

namespace Fields

def empty : Fields := ⟨none, none, none⟩

def add? (fs : Fields) : Field → Option Fields
  | .resourceType v => if fs.resourceType.isNone then some { fs with resourceType := v } else none
  | .metadata v => if fs.metadata.isNone then some { fs with metadata := some v } else none
  | .records v => if fs.records.isNone then some { fs with records := some v } else none

/-- The type is the only field that must be there. -/
def toResource? (fs : Fields) : Option Resource :=
  fs.resourceType.map fun resourceType =>
    ⟨resourceType, fs.metadata.getD none, fs.records.getD []⟩

end Fields

def metadataOfJson? : Json → Option (Option (Dict Json))
  | .null => some none
  | value => value.asDict?.map some

def recordsOfJson? : Json → Option (List Record)
  | .array items => items.mapM Json.asDict?
  | _ => none

def fieldDepth : Nat := Json.maxDepth - 1

/-- Reads the value of a field with a given name. No bracket in it has more than `limit` items. -/
def readField (limit : Nat) (key : String) (text : List Char) :
    Option (Option Field × List Char) :=
  let value (ofJson? : Json → Option Field) := do
    let (value, rest) ← readValue .exact limit fieldDepth text
    return (some (← ofJson? value), rest)
  if key = "resourceType" then value fun v => v.asString?.map .resourceType
  else if key = "metadata" then value fun v => (metadataOfJson? v).map .metadata
  else if key = "data" then value fun v => (recordsOfJson? v).map .records
  else (skipValue limit text).map fun rest => (none, rest)

def ofMembers? (members : List (String × Option Field)) : Option Resource := do
  let fields ← (members.filterMap (·.2)).foldlM Fields.add? .empty
  fields.toResource?

def ofItems? : List Json → Option Resource
  | [t] => do return ⟨← t.asString?, none, []⟩
  | [t, m] => do return ⟨← t.asString?, ← metadataOfJson? m, []⟩
  | [t, m, d] => do return ⟨← t.asString?, ← metadataOfJson? m, ← recordsOfJson? d⟩
  | _ => none

/-- Reads a resource and what follows it. No bracket in it has more than `limit` items. -/
def readResource (limit : Nat) (text : List Char) : Option (Resource × List Char) :=
  match skipSpace text with
  | '\x7b' :: rest => do
    let (members, rest) ← readItems '\x7d' (readMember .exact (readField limit)) limit rest
    return (← ofMembers? members, rest)
  | '[' :: rest => do
    let (items, rest) ← readItems ']' (readValue .exact limit fieldDepth) limit rest
    return (← ofItems? items, rest)
  | _ => none

variable [Engine]

def ofText (text : String) : Except Error Resource :=
  let text := text.toList
  match readResource text.length text with
  | some (r, rest) => if (skipSpace rest).isEmpty then .ok r else .error .malformedJson
  | none => .error .malformedJson

end RecordFlow.Resource
