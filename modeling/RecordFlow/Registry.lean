import RecordFlow.Node
import RecordFlow.Table

/-! # Registries

A registry holds the types of nodes that a manifest may refer to, by their
names. A name is taken once and for all: a second registration fails and changes
nothing.
-/

namespace RecordFlow

variable [Engine]

/-- What a registry knows of a type of nodes. -/
structure NodeType where
  displayName : String
  description : String
  schema : Schema
  create : Parameters → Except Error Node

def Operator.nodeType (operator : Operator) : NodeType where
  displayName := operator.name
  description := operator.description
  schema := operator.schema
  create p := .ok (.ofOperator operator p)

structure Registry where
  types : Table NodeType

namespace Registry

def empty : Registry := ⟨.empty⟩

def lookup? (g : Registry) (name : String) : Option NodeType := g.types.get? name

def contains (g : Registry) (name : String) : Bool := g.types.contains name

/-- Adds a type under a name that is not taken yet. The result is the registry afterwards, and whether the type
was refused. -/
def register (g : Registry) (name : String) (type : NodeType) : Registry × Except Error Unit :=
  if g.contains name then (g, .error (.duplicateRegistration name))
  else (⟨g.types.insert name type⟩, .ok ())

/-- Adds types one after another, up to the first one whose name is taken. -/
def registerAll (g : Registry) : List (String × NodeType) → Registry × Except Error Unit
  | [] => (g, .ok ())
  | (name, type) :: rest =>
    match g.register name type with
    | (g', .ok ()) => g'.registerAll rest
    | (g', .error e) => (g', .error e)

def typesOf (operators : List Operator) : List (String × NodeType) :=
  operators.map fun o => (o.name, o.nodeType)

def registerOperators (g : Registry) : Registry × Except Error Unit :=
  g.registerAll (typesOf Operator.all)

def standard : Registry := empty.registerOperators.1

def create (g : Registry) (name : String) (parameters : Parameters) : Except Error Node :=
  match g.lookup? name with
  | none => .error (.unregisteredType name)
  | some type => type.create parameters

/-- The names of the registered types, sorted. -/
def names (g : Registry) : List String := g.types.keys.mergeSort fun a b => decide (a ≤ b)

def registrations (g : Registry) : List (String × NodeType) :=
  g.types.entries.mergeSort fun a b => decide (a.1 ≤ b.1)

def size (g : Registry) : Nat := g.types.size

def isEmpty (g : Registry) : Bool := g.types.isEmpty

end Registry

end RecordFlow
