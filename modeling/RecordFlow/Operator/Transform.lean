import RecordFlow.Operator.Aggregate
import RecordFlow.Operator.Basic
import RecordFlow.Operator.Filter
import RecordFlow.Operator.Fuzz
import RecordFlow.Operator.SortOrder

/-! # What operators do

An operator takes the resolved parameters of a call and a resource to the
resource after it. Parameters are read before any record is looked at.
-/

namespace RecordFlow.Operator

def project (fields : List String) (record : Record) : Record :=
  record.filterKeys (fields.contains ·)

variable [Engine]

/-- The result of an operator on records that it cannot always work on. -/
def onData {α : Type} (operator : Operator) (result : Except DataFault α) : Except Error α :=
  result.mapError (.nodeFailure operator.name)

def transform : Operator → Resolved → Resource → Except Error Resource
  | input, p, r => do
    let _ ← p.string "resourceType"
    return r
  | limit, p, r => do
    let count ← p.count "count"
    return { r with records := r.records.take count }
  | filter, p, r => do
    let f ← Filter.ofParameters p
    return { r with records := f.apply r.records }
  | sort, p, r => do
    let s ← SortOrder.ofParameters p
    return { r with records := s.apply r.records }
  | select, p, r => do
    let fields ← p.strings "fields"
    return { r with records := r.records.map (project fields) }
  | fuzz, p, r => do
    let f ← Fuzz.ofParameters p
    return { r with records := ← fuzz.onData (f.apply r.records) }
  | aggregate, p, r => do
    let a ← Aggregate.ofParameters p
    aggregate.onData (a.apply r)
  | spoof, p, r => do
    let key ← p.string "key"
    let value ← p.value "value"
    return { r with records := r.records.map (·.insert key value.toJson) }

end RecordFlow.Operator
