import RecordFlow.Schema

/-! # Operators

The operators that come with the library: their names, what they are for, and
the parameters they read.
-/

namespace RecordFlow

inductive Operator where
  | input | limit | filter | sort | select | fuzz | aggregate | spoof
  deriving DecidableEq, Repr

namespace Operator

/-- All operators, in the order in which a registry takes them. -/
def all : List Operator := [input, limit, filter, sort, select, fuzz, aggregate, spoof]

def name : Operator → String
  | input => "Input"
  | limit => "Limit"
  | filter => "Filter"
  | sort => "Sort"
  | select => "Select"
  | fuzz => "Fuzz"
  | aggregate => "Aggregate"
  | spoof => "Spoof"

def ofName? (name : String) : Option Operator := all.find? (·.name = name)

def description : Operator → String
  | input => "Specify the type of resource to pull"
  | limit => "Limit the number of child data payloads."
  | filter => "Filter payloads based on a predicate"
  | sort => "Sort resource data according to their contents"
  | select => "Select fields to retrieve"
  | fuzz => "Convert a fine-grained number into a format with coarser granularity"
  | aggregate => "Aggregate payloads using an operation"
  | spoof => "Spoof resource data according to their contents"

def limitDescription : String :=
  "The number of child data payloads to keep. " ++
    "If there are fewer than this number, all payloads are kept."

def comparisonDescription : String :=
  "The operation to use to compare against targetValue. " ++
    "Order: (payload value) [operation] (targetValue)"

variable [Engine]

def schema : Operator → Schema
  | input => Schema.empty.required "resourceType" "The type of resource to pull."
  | limit => Schema.empty.required "count" limitDescription
  | filter =>
    Schema.empty
      |>.optional "operation" comparisonDescription (.string "===")
      |>.optional "target" "The target property on the payload to compare" (.string "contentValue")
      |>.required "targetValue" "The value to compare against"
  | sort =>
    Schema.empty
      |>.required "sortKey" "The key on the resource data object to sort by"
      |>.required "order" "The direction by which to sort the data: ascending or descending"
  | select => Schema.empty.required "fields" "Fields to retrieve"
  | fuzz =>
    Schema.empty
      |>.required "fuzzType" "The type of fuzz operation to perform: range or percent"
      |>.optional "target" "The target property on payloads to fuzz" (.string "contentValue")
      |>.optional "rangeType" "The type of range to apply, e.g. logarithmic, halfLogarithmic"
        (.string "logarithmic")
  | aggregate =>
    Schema.empty
      |>.optional "target" "The target field on each payload to aggregate from"
        (.string "contentValue")
      |>.optional "operation" "The aggregation operation to perform" (.string "count")
      |>.optional "groupKey" "Field with which to group payloads to perform aggregations on"
        (.string "contentType")
  | spoof =>
    Schema.empty
      |>.required "key" "The key on the resource data object to spoof"
      |>.required "value" "The value to replace the data with"

end Operator

end RecordFlow
