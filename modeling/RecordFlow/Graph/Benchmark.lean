import RecordFlow.Binary64.Arithmetic
import RecordFlow.Graph.Run

/-! # Timing runs

A timed run is a run in which a clock is read around each stage. The clock is an
effect of the caller's, so the same definition times a program and, with a clock
that stands still, runs as a plain function.
-/

namespace RecordFlow

structure StageTiming where
  name : String
  nanoseconds : Nat
  recordsOnEntry : Nat
  deriving DecidableEq, Repr

/-- The last resource of a timed run, and a timing for each stage in order. -/
structure Benchmark where
  result : Resource
  performance : List StageTiming

namespace StageTiming

def report (t : StageTiming) : StageReport := ⟨t.name, t.recordsOnEntry⟩

def toJson (t : StageTiming) : Json :=
  .object [
    ("nodeName", .string t.name),
    ("duration", .ofBinary64 ((Binary64.ofNat t.nanoseconds).div (.ofNat 1000000))),
    ("recordsProcessedOnEntry", .ofNat t.recordsOnEntry)]

end StageTiming

namespace Benchmark

def totalNanoseconds (b : Benchmark) : Nat := b.performance.foldl (fun total t => total + t.nanoseconds) 0

def run (b : Benchmark) : Run := ⟨b.result, b.performance.map (·.report)⟩

def toJson (b : Benchmark) : Json :=
  .object [
    ("result", b.result.toJson),
    ("performance", .array (b.performance.map (·.toJson)))]

/-- A time in milliseconds with three decimal places. -/
def milliseconds (nanoseconds : Nat) : String :=
  let thousandths := (nanoseconds + 500) / 1000
  let places := toString (thousandths % 1000)
  toString (thousandths / 1000) ++ "." ++ "".pushn '0' (3 - places.length) ++ places

def row (name time records : String) : String :=
  name ++ "".pushn ' ' (24 - name.length) ++ " " ++
    "".pushn ' ' (12 - time.length) ++ time ++ " " ++
    "".pushn ' ' (10 - records.length) ++ records

def header : String := row "stage" "ms" "records in"

def table (b : Benchmark) : List String :=
  header ::
    b.performance.map (fun t =>
      row t.name (milliseconds t.nanoseconds) (toString t.recordsOnEntry)) ++
    [row "total" (milliseconds b.totalNanoseconds) (toString b.result.size)]

end Benchmark

namespace Graph

variable [Engine]

variable {m : Type → Type} [Monad m]

/-- Runs the nodes of names one after another, reading the clock before and after each. -/
def timeStages (g : Graph) (overrides : Dict Parameters) (clock : m Nat) :
    List String → Resource → m (Except Error Benchmark)
  | [], r => pure (.ok ⟨r, []⟩)
  | name :: names, r => do
    let start ← clock
    match g.runStage overrides name r with
    | .error e => pure (.error e)
    | .ok r' =>
      let stop ← clock
      let rest ← timeStages g overrides clock names r'
      pure (rest.map fun b => ⟨b.result, ⟨name, stop - start, r.size⟩ :: b.performance⟩)

def benchmarkWith (g : Graph) (overrides : Dict Parameters) (clock : m Nat) (r : Resource) :
    m (Except Error Benchmark) :=
  g.timeStages overrides clock g.pipeline r

def benchmark (g : Graph) (clock : m Nat) (r : Resource) : m (Except Error Benchmark) :=
  g.benchmarkWith .empty clock r

end Graph

end RecordFlow
