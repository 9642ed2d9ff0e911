import RecordFlow.Binary64.Arithmetic
import RecordFlow.Json.Compare
import RecordFlow.Resolution
import RecordFlow.Resource.Basic

/-! # Aggregating records

A scalar aggregation writes one value into the metadata and leaves no records.
A grouped aggregation leaves one record for each group, in the order in which
the groups first appear. Only records that carry the target field count, and
grouping also leaves out those without the group key.
-/

namespace RecordFlow

inductive Summary where
  | count | sum | average
  deriving DecidableEq, Repr

inductive Aggregation where
  | scalar (summary : Summary)
  | groupSum
  | groupAverage
  | histogram
  deriving DecidableEq, Repr

namespace Aggregation

def ofName? : String → Option Aggregation
  | "count" => some (scalar .count)
  | "sum" => some (scalar .sum)
  | "average" => some (scalar .average)
  | "groupSum" => some groupSum
  | "group_sum" => some groupSum
  | "groupAverage" => some groupAverage
  | "group_average" => some groupAverage
  | "histogramFrequency" => some histogram
  | "histogram_frequency" => some histogram
  | _ => none

end Aggregation

namespace Summary

/-- The key under which a summary is written into the metadata. -/
def key : Summary → String
  | count => "count"
  | sum => "sum"
  | average => "average"

def addNumbers (target : String) (total : Binary64) :
    List Record → Except DataFault Binary64
  | [] => .ok total
  | record :: records =>
    match record.get? target with
    | none => addNumbers target total records
    | some (.number n) => addNumbers target (total.add n.toBinary64) records
    | some other => .error (.sumOf target other.kind)

def sumOf (target : String) (records : List Record) : Except DataFault Binary64 :=
  addNumbers target .zero records

def averageOf (target : String) (records : List Record) : Except DataFault Binary64 :=
  (sumOf target records).map fun total => total.div (.ofNat records.length)

/-- The summary of records; no records have no average. -/
def apply (s : Summary) (target : String) (records : List Record) : Except DataFault Json :=
  match s with
  | count => .ok (.ofNat records.length)
  | sum => (sumOf target records).map Json.ofBinary64
  | average =>
    if records.isEmpty then .ok .null else (averageOf target records).map Json.ofBinary64

end Summary

/-- Records with a common label. -/
structure Group where
  label : String
  members : List Record

namespace Group

/-- Adds a record to the group with its label, or to a new group at the end. -/
def add (label : String) (record : Record) : List Group → List Group
  | [] => [⟨label, [record]⟩]
  | g :: gs =>
    if g.label = label then ⟨g.label, g.members ++ [record]⟩ :: gs else g :: add label record gs

def ofRecords (key : String) (records : List Record) : List Group :=
  records.foldl (fun gs record =>
    match record.get? key with
    | some value => add value.label record gs
    | none => gs) []

def toRecord (title : String) (g : Group) (value : Json) : Record :=
  .ofList [("contentType", .string (title ++ " " ++ g.label)), ("contentValue", value)]

/-- One record for each group, or the fault of the first group that has none. -/
def summarize (title : String) (summary : List Record → Except DataFault Json) :
    List Group → Except DataFault (List Record)
  | [] => .ok []
  | g :: gs =>
    match summary g.members with
    | .error e => .error e
    | .ok value => (summarize title summary gs).map (g.toRecord title value :: ·)

end Group

structure Aggregate where
  aggregation : Aggregation
  target : String
  groupKey : String

namespace Aggregate

variable [Engine]

def ofParameters (p : Resolved) : Except Error Aggregate := do
  let aggregation ← p.choice "operation" .aggregation Aggregation.ofName?
  let target ← p.string "target"
  let groupKey ← p.string "groupKey"
  return ⟨aggregation, target, groupKey⟩

/-- Writes a summary into the metadata in place of the records. -/
def replaceBy (r : Resource) (key : String) (value : Json) : Resource :=
  { r with metadata := some ((r.metadata.getD .empty).insert key value), records := [] }

def apply (a : Aggregate) (r : Resource) : Except DataFault Resource :=
  let found := r.recordsWith a.target
  let grouped (key title : String) (summary : Summary) :=
    (Group.summarize title (summary.apply a.target) (Group.ofRecords key found)).map fun records =>
      { r with records }
  match a.aggregation with
  | .scalar summary => (summary.apply a.target found).map (replaceBy r summary.key)
  | .groupSum => grouped a.groupKey "group sum" .sum
  | .groupAverage => grouped a.groupKey "group average" .average
  | .histogram => grouped a.target "frequency" .count

end Aggregate

end RecordFlow
