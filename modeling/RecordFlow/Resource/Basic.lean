import RecordFlow.Error
import RecordFlow.Json.Writer

/-! # Resources

A resource is what flows through a pipeline: a list of records of one type,
with metadata beside them. Absent metadata and empty metadata are different.
-/

namespace RecordFlow

abbrev Record := Dict Json

structure Resource where
  resourceType : String
  metadata : Option (Dict Json)
  records : List Record

namespace Json

def asString? : Json → Option String
  | string s => some s
  | _ => none

def asDict? : Json → Option (Dict Json)
  | object fields => some (.ofList fields)
  | _ => none

end Json

namespace Resource

def size (r : Resource) : Nat := r.records.length

/-- The records that carry a field. -/
def recordsWith (r : Resource) (key : String) : List Record :=
  r.records.filter (·.contains key)

def toJson (r : Resource) : Json :=
  let metadata := match r.metadata with
    | none => []
    | some fields => [("metadata", Json.ofDict fields)]
  .object <| ("resourceType", .string r.resourceType) :: metadata ++
    [("data", .array (r.records.map Json.ofDict))]

variable [Engine]

/-- The items of an array as records, or the fault of the first one that is no object. -/
def recordsOfItems (key : String) : List Json → Except Error (List Record)
  | [] => .ok []
  | item :: items =>
    match item.asDict? with
    | none => .error (.configuration (.itemNotAnObject key item.kind))
    | some record => (recordsOfItems key items).map (record :: ·)

/-- The records under a key of an object; an absent key stands for no records. -/
def recordsAt (fields : Dict Json) (key : String) : Except Error (List Record) :=
  match fields.get? key with
  | none => .ok []
  | some (.array items) => recordsOfItems key items
  | some other => .error (.configuration (.notAnArray key other.kind))

/-- Wraps an object: the array under `itemsKey` becomes the records, and every other field
metadata. -/
def wrap (value : Json) (resourceType itemsKey : String) : Except Error Resource :=
  match value.asDict? with
  | none => .error (.configuration (.notAnObject value.kind))
  | some fields => (recordsAt fields itemsKey).map fun records =>
      ⟨resourceType, some (fields.erase itemsKey), records⟩

end Resource

end RecordFlow
