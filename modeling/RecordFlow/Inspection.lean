import RecordFlow.Graph.Basic
import RecordFlow.Registry

/-! # Inspection

The inspection form of a value is for whoever develops a pipeline: it names the
types and fields that the value is made of.
-/

namespace RecordFlow

def inspectRecord (type : String) (fields : List (String × String)) (ending : String) : String :=
  type ++ " \x7b " ++ ", ".intercalate (fields.map fun (name, value) => name ++ ": " ++ value) ++
    ending ++ " \x7d"

def inspectList (items : List String) : String := "[" ++ ", ".intercalate items ++ "]"

variable [Engine]

def Pattern.inspect (p : Pattern) : String :=
  inspectRecord "Pattern"
    [("source", quoted p.source), ("flags", quoted p.flags),
      ("regex", flaggedSource p.source p.flags)] ""

def Scalar.inspect : Scalar → String
  | string s => "String(" ++ quoted s ++ ")"
  | number x => "Number(" ++ x.toInspectionText ++ ")"
  | boolean b => "Boolean(" ++ (if b then "true" else "false") ++ ")"
  | pattern p => "Pattern(" ++ p.inspect ++ ")"

def Literal.inspect : Literal → String
  | scalar s => s.inspect
  | array items => "Array(" ++ inspectList (items.map Scalar.inspect) ++ ")"

def Property.inspect (p : Property) : String :=
  let default := match p.default? with
    | none => "None"
    | some value => "Some(" ++ value.inspect ++ ")"
  inspectRecord "SchemaProperty"
    [("name", quoted p.name), ("description", quoted p.description),
      ("default_value", default)] ""

def Schema.inspect (s : Schema) : String :=
  inspectRecord "Schema" [("properties", inspectList (s.properties.map Property.inspect))] ""

/-- A registered type; how it makes nodes is left out. -/
def NodeType.inspect (type : NodeType) (name : String) : String :=
  inspectRecord "NodeRegistration"
    [("type_name", quoted name), ("display_name", quoted type.displayName),
      ("description", quoted type.description), ("schema", type.schema.inspect)] ", .."

def Graph.inspect (g : Graph) : String :=
  let nodes := g.nodes.entries.map fun (name, node) =>
    "(" ++ quoted name ++ ", " ++ quoted node.nodeType ++ ")"
  inspectRecord "Graph"
    [("title", quoted g.title), ("description", quoted g.description),
      ("pipeline", inspectList (g.pipeline.map quoted)), ("nodes", inspectList nodes)] ""

end RecordFlow
