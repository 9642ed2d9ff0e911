import RecordFlow.Operator.Transform

/-! # Nodes

A node is an operator bound to parameters. On each call the bound parameters are
resolved together with the overrides of that call, and the operator works on the
resource with the result. A call never changes the node.
-/

namespace RecordFlow

variable [Engine]

structure Node where
  nodeType : String
  schema : Schema
  parameters : Parameters
  transform : Resolved → Resource → Except Error Resource

namespace Node

def ofOperator (operator : Operator) (parameters : Parameters) : Node where
  nodeType := operator.name
  schema := operator.schema
  parameters
  transform := operator.transform

def withParameters (n : Node) (parameters : Parameters) : Node := { n with parameters }

/-- The parameters of one call. -/
def resolve (n : Node) (overrides : Option Parameters) : Except Error Resolved :=
  Resolved.ofSchema n.nodeType n.schema n.parameters overrides

def process (n : Node) (overrides : Option Parameters) (r : Resource) : Except Error Resource :=
  match n.resolve overrides with
  | .error e => .error e
  | .ok p => n.transform p r

end Node

end RecordFlow
