import RecordFlow.Graph.Basic

/-! # Running graphs

A run hands a resource from stage to stage, in the order of the pipeline. It
stops at the first stage that fails. Overrides are given by stage name, and
apply wherever that name occurs.
-/

namespace RecordFlow

structure StageReport where
  name : String
  recordsOnEntry : Nat
  deriving DecidableEq, Repr

/-- The last resource, and a report for each stage in order. -/
structure Run where
  result : Resource
  stages : List StageReport

namespace Graph

variable [Engine]

def runStage (g : Graph) (overrides : Dict Parameters) (name : String) (r : Resource) :
    Except Error Resource :=
  match g.nodes.get? name with
  | none => .error (.unknownStage name)
  | some node => node.process (overrides.get? name) r

def runStages (g : Graph) (overrides : Dict Parameters) :
    List String → Resource → Except Error Run
  | [], r => .ok ⟨r, []⟩
  | name :: names, r =>
    match g.runStage overrides name r with
    | .error e => .error e
    | .ok r' => (g.runStages overrides names r').map fun run =>
        ⟨run.result, ⟨name, r.size⟩ :: run.stages⟩

def run (g : Graph) (overrides : Dict Parameters) (r : Resource) : Except Error Run :=
  g.runStages overrides g.pipeline r

def execute (g : Graph) (overrides : Dict Parameters) (r : Resource) : Except Error Resource :=
  (g.run overrides r).map (·.result)

end Graph

end RecordFlow
