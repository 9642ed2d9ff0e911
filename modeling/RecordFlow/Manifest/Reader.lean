import RecordFlow.Graph.Basic
import RecordFlow.Manifest.Layout
import RecordFlow.Registry

/-! # Reading manifests

The declarations become nodes, and the entries of the pipeline become the stages
of a graph. A name that is declared twice keeps its last declaration, and every
declaration is read, whether the pipeline refers to it or not. Any failure is
wrapped in one layer that holds the whole manifest.
-/

namespace RecordFlow.Manifest

variable [Engine]

/-- The parameters of a declaration: its body in braces is an object literal. -/
def Declaration.parameters (d : Declaration) : Except Error Parameters :=
  Parameters.read (String.ofList ('\x7b' :: d.body ++ ['\x7d']))

def typeOf (p : Parameters) : Except Error String :=
  match (p.get? "type").bind Literal.asString? with
  | some type => .ok type
  | none => .error (.missingType p)

def Declaration.node (registry : Registry) (d : Declaration) : Except Error Node := do
  if d.name.isEmpty then
    throw (.declarationSyntax (String.ofList (Text.trim d.body)) .nameless)
  let parameters ← d.parameters
  let type ← typeOf parameters
  registry.create type parameters

def nodesOf (registry : Registry) : List Declaration → Except Error (List (String × Node))
  | [] => .ok []
  | d :: ds =>
    match d.node registry with
    | .error e => .error (.reading .node d.text e)
    | .ok node => (nodesOf registry ds).map ((d.name, node) :: ·)

/-- The nodes of a block of declarations by their names. -/
def declaredNodes (registry : Registry) (block : List Char) : Except Error (Dict Node) :=
  let (ds, rest) := declarations block
  match nodesOf registry ds with
  | .error e => .error e
  | .ok nodes =>
    if isUnclosed rest then
      let fragment := String.ofList (Text.trim rest)
      .error (.reading .node fragment (.declarationSyntax fragment .unclosed))
    else .ok (.ofList nodes)

def addEntry (declared : Dict Node) (g : Graph) (entry : String) : Except Error Graph :=
  if isMarker entry then .ok g
  else if g.has entry then Graph.ofChange (g.append entry)
  else
    match declared.get? entry with
    | none => .error (.unregisteredReference entry)
    | some node => Graph.ofChange (g.add entry node)

def readLines (registry : Registry) (lines : List (List Char)) : Except Error Graph := do
  let title ← tagValue titleTag lines
  let description ← tagValue descriptionTag lines
  let pipeline ← tagValue pipelineTag lines
  let declared ← declaredNodes registry (declarationBlock lines)
  (pipelineEntries pipeline).foldlM (addEntry declared) (.empty title description)

end RecordFlow.Manifest

namespace RecordFlow.Graph

variable [Engine]

def ofManifest (registry : Registry) (manifest : String) : Except Error Graph :=
  (Manifest.readLines registry (Text.lines manifest.toList)).mapError
    (.reading .graph manifest)

end RecordFlow.Graph
