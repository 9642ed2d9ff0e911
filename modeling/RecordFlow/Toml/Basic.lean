import RecordFlow.Binary64.Basic

/-! # TOML values

A table is a list of fields with distinct keys. How a table came to be decides
what may still be added to it: a table that a header names is complete but for
its own section, one that dotted keys made grows by dotted keys only, and one in
braces never grows.
-/

namespace RecordFlow.Toml

inductive Origin where
  /-- Written in braces. -/
  | inline
  /-- Made by a dotted key. -/
  | dotted
  /-- Made by a header below it. -/
  | implied
  /-- Named by a header. -/
  | header
  deriving DecidableEq, Repr

/-- Tables that a later header or dotted key may pass through or name. -/
def Origin.isOpen : Origin → Bool
  | dotted => true
  | implied => true
  | _ => false

inductive Value where
  | string (value : String)
  | integer (value : Int)
  | float (value : Binary64)
  | boolean (value : Bool)
  /-- A date, a time, or both, as it is written. -/
  | moment (text : String)
  | array (items : List Value)
  | table (origin : Origin) (fields : List (String × Value))
  /-- The tables of an array, each begun by a header of its own; the last one comes first. -/
  | elements (tables : List (List (String × Value)))

abbrev Fields := List (String × Value)

/-- Where a key stands: the keys of the tables around it, then its own. -/
structure Key where
  parents : List String
  name : String
  deriving DecidableEq, Repr

namespace Fields

def replace (key : String) (value : Value) (fields : Fields) : Fields :=
  fields.map fun (k, v) => if k = key then (k, value) else (k, v)

def add? (key : String) (value : Value) (fields : Fields) : Option Fields :=
  if (fields.lookup key).isSome then none else some (fields ++ [(key, value)])

/-- Changes the table at the end of a path, making the tables on the way that are missing. The
change is told how that table came to be; `byDots` tells whether the path is a dotted key or a part
of a header. -/
def change? (byDots : Bool) (change : Origin → Fields → Option Fields) (origin : Origin)
    (path : List String) (fields : Fields) : Option Fields :=
  match path with
  | [] => change origin fields
  | key :: path =>
    match fields.lookup key with
    | none =>
      let made := if byDots then Origin.dotted else .implied
      (change? byDots change made path []).map fun inner => fields ++ [(key, .table made inner)]
    | some (.table .inline _) => none
    | some (.table origin inner) =>
      if byDots && !origin.isOpen then none
      else (change? byDots change origin path inner).map fun inner =>
        replace key (.table origin inner) fields
    | some (.elements (last :: others)) =>
      (change? byDots change .header path last).map fun last =>
        replace key (.elements (last :: others)) fields
    | some _ => none

/-- Adds the value of a key. A dotted key ends in a table made by dotted keys. -/
def addPair? (key : Key) (value : Value) (fields : Fields) : Option Fields :=
  fields.change? true (fun origin inner =>
    if decide (origin = .dotted) == key.parents.isEmpty then none
    else inner.add? key.name value) .header key.parents

def addTable? (key : Key) (fields : Fields) : Option Fields :=
  fields.change? false (fun _ inner =>
    match inner.lookup key.name with
    | none => some (inner ++ [(key.name, .table .header [])])
    | some (.table .implied found) => some (inner.replace key.name (.table .header found))
    | some _ => none) .header key.parents

def addElement? (key : Key) (fields : Fields) : Option Fields :=
  fields.change? false (fun _ inner =>
    match inner.lookup key.name with
    | none => some (inner ++ [(key.name, .elements [[]])])
    | some (.elements tables) => some (inner.replace key.name (.elements ([] :: tables)))
    | some _ => none) .header key.parents

def addBelow? (header? : Option Key) (key : Key) (value : Value) (fields : Fields) :
    Option Fields :=
  match header? with
  | none => fields.addPair? key value
  | some place =>
    fields.change? false (fun _ inner => inner.addPair? key value) .header
      (place.parents ++ [place.name])

end Fields

end RecordFlow.Toml
