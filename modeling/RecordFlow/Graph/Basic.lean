import RecordFlow.Node

/-! # Graphs

A graph is a sequence of named stages. Each name stands for one node, and a name
may occur in the sequence more than once.
-/

namespace RecordFlow

variable [Engine]

structure Graph where
  title : String
  description : String
  pipeline : List String
  nodes : Dict Node

namespace Graph

def empty (title description : String) : Graph := ⟨title, description, [], .empty⟩

def has (g : Graph) (name : String) : Bool := g.nodes.contains name

def push (g : Graph) (name : String) : Graph := { g with pipeline := g.pipeline ++ [name] }

/-- Adds a node under a new name, as the last stage. The result is the graph afterwards, and whether the node
was refused. -/
def add (g : Graph) (name : String) (node : Node) : Graph × Except Error Unit :=
  if g.has name then (g, .error (.duplicateNode name))
  else
    let g := { g with nodes := g.nodes.insert name node }
    (g.push name, .ok ())

/-- Repeats the node of a name as the last stage. -/
def append (g : Graph) (name : String) : Graph × Except Error Unit :=
  if g.has name then (g.push name, .ok ())
  else (g, .error (.unknownStage name))

/-- The graph after a change that was not refused. -/
def ofChange (result : Graph × Except Error Unit) : Except Error Graph := result.2.map fun _ => result.1

def pipelineText (g : Graph) : String := " -> ".intercalate g.pipeline

/-- Title, description and pipeline on one line. -/
def toText (g : Graph) : String :=
  "Graph\x7btitle: " ++ quoted g.title ++ ", description: " ++ quoted g.description ++
    ", pipeline: " ++ quoted g.pipelineText ++ "\x7d"

end Graph

end RecordFlow
