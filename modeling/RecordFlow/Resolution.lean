import RecordFlow.Error
import RecordFlow.Schema

/-! # Resolving parameters

The parameters of one call are found property by property: an override comes
before the value bound to the node, and that before the default of the schema.
Names outside the schema are left out. The resolved values are then read as the
kind of value that an operator needs.
-/

namespace RecordFlow

variable [Engine]

/-- The parameters of one call of a node. -/
structure Resolved where
  nodeType : String
  values : Parameters
  deriving DecidableEq

def Property.resolve (p : Property) (bound : Parameters) (overrides : Option Parameters) :
    Option Literal :=
  ((overrides.bind (·.get? p.name)).or (bound.get? p.name)).or p.default?

namespace Resolved

/-- The values of properties in order, up to the first one that has none. -/
def entries (nodeType : String) (bound : Parameters) (overrides : Option Parameters) :
    List Property → Except Error (List (String × Literal))
  | [] => .ok []
  | p :: rest =>
    match p.resolve bound overrides with
    | none => .error (.mandatoryParameter nodeType p.name)
    | some value => (entries nodeType bound overrides rest).map ((p.name, value) :: ·)

/-- The parameters of a call, or the first mandatory parameter that has no value. -/
def ofSchema (nodeType : String) (schema : Schema) (bound : Parameters)
    (overrides : Option Parameters) : Except Error Resolved :=
  (entries nodeType bound overrides schema.properties).map fun values =>
    ⟨nodeType, .ofList values⟩

def get? (r : Resolved) (key : String) : Option Literal := r.values.get? key

def value (r : Resolved) (key : String) : Except Error Literal :=
  match r.get? key with
  | some v => .ok v
  | none => .error (.mandatoryParameter r.nodeType key)

/-- A value as what an operator expects it to be. -/
def read {α : Type} (r : Resolved) (key : String) (expected : Expectation)
    (as? : Literal → Option α) : Except Error α :=
  match r.value key with
  | .error e => .error e
  | .ok v =>
    match as? v with
    | some a => .ok a
    | none => .error (.invalidParameter r.nodeType key expected v)

def string (r : Resolved) (key : String) : Except Error String :=
  r.read key .string Literal.asString?

def number (r : Resolved) (key : String) : Except Error Binary64 :=
  r.read key .number Literal.asNumber?

def boolean (r : Resolved) (key : String) : Except Error Bool :=
  r.read key .boolean Literal.asBoolean?

def pattern (r : Resolved) (key : String) : Except Error Pattern :=
  r.read key .pattern Literal.asPattern?

def strings (r : Resolved) (key : String) : Except Error (List String) :=
  r.read key .strings Literal.asStrings?

/-- A whole number from zero to `2 ^ 64`; the last one counts as the largest word below it. -/
def countOf? (v : Literal) : Option Nat :=
  match v.asNumber?.bind Binary64.toInt? with
  | some n => if 0 ≤ n ∧ n ≤ 0x10000000000000000 then some (min n.toNat 0xffffffffffffffff) else none
  | none => none

def count (r : Resolved) (key : String) : Except Error Nat := r.read key .count countOf?

/-- A string that names one of several choices. -/
def choice {α : Type} (r : Resolved) (key : String) (expected : Expectation)
    (ofName? : String → Option α) : Except Error α :=
  match r.string key with
  | .error e => .error e
  | .ok name =>
    match ofName? name with
    | some a => .ok a
    | none => .error (.invalidParameter r.nodeType key expected (.string name))

end Resolved

end RecordFlow
