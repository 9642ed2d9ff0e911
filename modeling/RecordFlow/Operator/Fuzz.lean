import RecordFlow.Operator.Bin
import RecordFlow.Resolution
import RecordFlow.Resource.Basic

/-! # Coarsening numbers

A number under a field is replaced by the bin it falls into, or by its
percentage of the largest number under that field. Records without the field
are dropped.
-/

namespace RecordFlow

inductive Coarsening where
  | range (bin : Binary64 → Bin)
  | percent

structure Fuzz where
  target : String
  coarsening : Coarsening

namespace Fuzz

def binningOfName? : String → Option (Binary64 → Bin)
  | "logarithmic" => some Bin.logarithmic
  | "halfLogarithmic" => some Bin.halfLogarithmic
  | _ => none

/-- The kinds of coarsening; `true` stands for ranges. -/
def kindOfName? : String → Option Bool
  | "range" => some true
  | "percent" => some false
  | _ => none

variable [Engine]

def ofParameters (p : Resolved) : Except Error Fuzz := do
  let target ← p.string "target"
  if ← p.choice "fuzzType" .coarsening kindOfName? then
    return ⟨target, .range (← p.choice "rangeType" .binning binningOfName?)⟩
  else
    return ⟨target, .percent⟩

/-- The numbers under a field of records, or the fault of the first value that is none. -/
def numbers (target : String) (fault : Json.Kind → DataFault) :
    List Record → Except DataFault (List (Record × Binary64))
  | [] => .ok []
  | record :: records =>
    match record.get? target with
    | none => numbers target fault records
    | some (.number n) =>
      (numbers target fault records).map ((record, n.toBinary64) :: ·)
    | some other => .error (fault other.kind)

def maximum? : List Binary64 → Option Binary64
  | [] => none
  | x :: xs => some (xs.foldl Binary64.maximum x)

def percentage (x maximum : Binary64) : Json :=
  .ofBinary64 ((x.mul (.ofNat 100)).div maximum)

def applyRange (bin : Binary64 → Bin) (target : String) (records : List Record) :
    Except DataFault (List Record) :=
  (numbers target .rangeOf records).map fun found =>
    found.map fun (record, x) => record.insert target (.string (bin x).toText)

def applyPercent (target : String) (records : List Record) : Except DataFault (List Record) :=
  match numbers target .percentOf records with
  | .error e => .error e
  | .ok found =>
    match maximum? (found.map (·.2)) with
    | none => .ok []
    | some maximum =>
      if maximum.equals .zero then .error .zeroMaximum
      else .ok (found.map fun (record, x) => record.insert target (percentage x maximum))

def apply (f : Fuzz) (records : List Record) : Except DataFault (List Record) :=
  match f.coarsening with
  | .range bin => applyRange bin f.target records
  | .percent => applyPercent f.target records

end Fuzz

end RecordFlow
