import RecordFlow.Json.Compare
import RecordFlow.Resolution
import RecordFlow.Resource.Basic

/-! # Sorting records

Records are sorted by the value of one field, in either direction. The sort is
stable, and records without the field come last in both directions.
-/

namespace RecordFlow

inductive Direction where
  | ascending | descending
  deriving DecidableEq, Repr

def Direction.ofName? : String → Option Direction
  | "ascending" => some ascending
  | "descending" => some descending
  | _ => none

structure SortOrder where
  key : String
  direction : Direction

namespace SortOrder

variable [Engine]

def ofParameters (p : Resolved) : Except Error SortOrder := do
  let key ← p.string "sortKey"
  let direction ← p.choice "order" .direction Direction.ofName?
  return ⟨key, direction⟩

/-- Order of two values in the direction of the sort. -/
def compareKeys (s : SortOrder) (a b : Json) : Ordering :=
  match s.direction with
  | .ascending => a.totalOrder b
  | .descending => (a.totalOrder b).swap

def compare (s : SortOrder) (a b : Record) : Ordering :=
  match a.get? s.key, b.get? s.key with
  | some x, some y => s.compareKeys x y
  | some _, none => .lt
  | none, some _ => .gt
  | none, none => .eq

def apply (s : SortOrder) (records : List Record) : List Record :=
  records.mergeSort fun a b => s.compare a b != .gt

end SortOrder

end RecordFlow
