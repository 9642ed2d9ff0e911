import RecordFlow.Proofs.Graph.History
import RecordFlow.Regex.Engine

/-! # Runs as compositions

A run is the composition of the nodes of its stages, from left to right: it succeeds
if and only if the composition does, and with the same resource. The error is that of
the first node that fails. There is a report for each stage, with the number of
records that it was given.
-/

namespace RecordFlow.Graph

section

variable [Engine]

variable {g : Graph} {overrides : Dict Parameters} {name : String} {names : List String} {node : Node}
  {r r' : Resource} {e : Error}

def nodesAt (g : Graph) (names : List String) : List (String × Node) :=
  names.filterMap fun name => (g.nodes.get? name).map fun node => (name, node)

def stages (g : Graph) : List (String × Node) := g.nodesAt g.pipeline

/-- Nodes one after another, each with the overrides for its own name, if there are any. -/
def compose (overrides : Dict Parameters) (stages : List (String × Node)) (r : Resource) :
    Except Error Resource :=
  stages.foldlM (fun r stage => stage.2.process (overrides.get? stage.1) r) r

theorem nodesAt_cons (h : g.nodes.get? name = some node) (names : List String) :
    g.nodesAt (name :: names) = (name, node) :: g.nodesAt names := by
  rw [nodesAt, List.filterMap_cons, h]
  rfl

theorem exists_node_of_cons (h : ∀ key ∈ name :: names, g.has key) :
    ∃ node, g.nodes.get? name = some node ∧ ∀ key ∈ names, g.has key := by
  obtain ⟨hname, hnames⟩ := List.forall_mem_cons.1 h
  obtain ⟨node, hnode⟩ := Option.isSome_iff_exists.1 hname
  exact ⟨node, hnode, hnames⟩

theorem map_fst_nodesAt (h : ∀ name ∈ names, g.has name) : (g.nodesAt names).map Prod.fst = names := by
  induction names with
  | nil => rfl
  | cons name names ih =>
    obtain ⟨node, hnode, hnames⟩ := exists_node_of_cons h
    rw [nodesAt_cons hnode, List.map_cons, ih hnames]

theorem compose_cons (stage : String × Node) (stages : List (String × Node)) (r : Resource) :
    compose overrides (stage :: stages) r =
      (stage.2.process (overrides.get? stage.1) r).bind (compose overrides stages) := by
  rw [compose, List.foldlM_cons]
  rfl

theorem compose_append (before after : List (String × Node)) (r : Resource) :
    compose overrides (before ++ after) r = (compose overrides before r).bind (compose overrides after) := by
  rw [compose, List.foldlM_append]
  rfl

theorem exists_of_compose_error {stages : List (String × Node)} (h : compose overrides stages r = .error e) :
    ∃ before stage after r', stages = before ++ stage :: after ∧
      compose overrides before r = .ok r' ∧ stage.2.process (overrides.get? stage.1) r' = .error e := by
  induction stages generalizing r with
  | nil => cases h
  | cons first stages ih =>
    rw [compose_cons] at h
    cases hfirst : first.2.process (overrides.get? first.1) r with
    | error e' =>
      rw [hfirst] at h
      cases h
      exact ⟨[], first, stages, r, rfl, rfl, hfirst⟩
    | ok r₁ =>
      rw [hfirst] at h
      obtain ⟨before, stage, after, r', rfl, hbefore, hstage⟩ := ih h
      refine ⟨first :: before, stage, after, r', rfl, ?_, hstage⟩
      rw [compose_cons, hfirst]
      exact hbefore

theorem compose_eq_error_iff {stages : List (String × Node)} :
    compose overrides stages r = .error e ↔
      ∃ before stage after r', stages = before ++ stage :: after ∧
        compose overrides before r = .ok r' ∧ stage.2.process (overrides.get? stage.1) r' = .error e := by
  constructor
  · exact exists_of_compose_error
  · rintro ⟨before, stage, after, r', rfl, hbefore, hstage⟩
    rw [compose_append, hbefore]
    show compose overrides (stage :: after) r' = _
    rw [compose_cons, hstage]
    rfl

theorem result_runStages (h : ∀ name ∈ names, g.has name) :
    (g.runStages overrides names r).map (·.result) = compose overrides (g.nodesAt names) r := by
  induction names generalizing r with
  | nil => rfl
  | cons name names ih =>
    obtain ⟨node, hnode, hnames⟩ := exists_node_of_cons h
    rw [nodesAt_cons hnode, compose_cons]
    cases hstage : node.process (overrides.get? name) r with
    | error e =>
      rw [runStages_cons_error ((runStage_of_node hnode r).trans hstage)]
      rfl
    | ok r' =>
      rw [runStages_cons_ok ((runStage_of_node hnode r).trans hstage)]
      show _ = compose overrides (g.nodesAt names) r'
      rw [← ih hnames]
      cases g.runStages overrides names r' <;> rfl

theorem reports_runStages (h : ∀ name ∈ names, g.has name) {run : Run}
    (hrun : g.runStages overrides names r = .ok run) :
    run.stages.map (·.name) = names ∧ ∀ i report, run.stages[i]? = some report →
      ∃ r', compose overrides ((g.nodesAt names).take i) r = .ok r' ∧ report.recordsOnEntry = r'.size := by
  induction names generalizing r run with
  | nil =>
    cases hrun
    exact ⟨rfl, fun i report hreport => by simp at hreport⟩
  | cons name names ih =>
    obtain ⟨node, hnode, hnames⟩ := exists_node_of_cons h
    obtain ⟨r₁, rest, hstage, hrest, rfl⟩ := runStages_cons_eq_ok hrun
    rw [runStage_of_node hnode] at hstage
    obtain ⟨hmap, hreports⟩ := ih hnames hrest
    refine ⟨congrArg (name :: ·) hmap, fun i report hreport => ?_⟩
    cases i with
    | zero =>
      cases hreport
      exact ⟨r, rfl, rfl⟩
    | succ i =>
      obtain ⟨r', hbefore, hsize⟩ := hreports i report hreport
      refine ⟨r', ?_, hsize⟩
      rw [nodesAt_cons hnode, List.take_succ_cons, compose_cons, hstage]
      exact hbefore

section

variable {σ : Type} {clock : StateM σ Nat} {s : σ}

theorem run_benchmarkWith (g : Graph) (overrides : Dict Parameters) (clock : StateM σ Nat) (r : Resource)
    (s : σ) :
    ((g.benchmarkWith overrides clock r).run s).1.map Benchmark.run = g.run overrides r :=
  run_timeStages clock g.pipeline r s

/-- A timed run has the result of a run that is not timed. -/
theorem result_benchmarkWith_eq_execute (g : Graph) (overrides : Dict Parameters) (clock : StateM σ Nat)
    (r : Resource) (s : σ) :
    ((g.benchmarkWith overrides clock r).run s).1.map (·.result) = g.execute overrides r := by
  rw [execute, ← run_benchmarkWith g overrides clock r s]
  cases ((g.benchmarkWith overrides clock r).run s).1 <;> rfl

theorem result_benchmarkWith (h : ∀ name ∈ g.pipeline, g.has name) :
    ((g.benchmarkWith overrides clock r).run s).1.map (·.result) = compose overrides g.stages r := by
  rw [stages, ← result_runStages h, result_benchmarkWith_eq_execute]
  rfl

theorem reports_benchmarkWith (h : ∀ name ∈ g.pipeline, g.has name) {b : Benchmark}
    (hb : ((g.benchmarkWith overrides clock r).run s).1 = .ok b) :
    b.performance.map (·.name) = g.pipeline ∧ ∀ i t, b.performance[i]? = some t →
      ∃ r', compose overrides (g.stages.take i) r = .ok r' ∧ t.recordsOnEntry = r'.size := by
  have hrun := run_benchmarkWith g overrides clock r s
  rw [hb] at hrun
  obtain ⟨hnames, hreports⟩ := reports_runStages h hrun.symm
  constructor
  · simpa [Benchmark.run, Function.comp_def, StageTiming.report] using hnames
  · intro i t ht
    exact hreports i t.report (by simp [Benchmark.run, ht])

end

/-- A timed run of a graph that changes have made is the composition of the nodes of its stages, each
with the overrides for its own name. It fails with the error of the first node that fails. There is a
timing for each stage, in order, with the number of records that the stage was given. A pipeline may be
run in two parts, the second one on the result of the first. -/
theorem benchmarkWith_afterAll {σ : Type} (title description : String) (cs : List Change)
    (overrides : Dict Parameters) (clock : StateM σ Nat) (s : σ) (r : Resource) :
    let g := (empty title description).afterAll cs
    let outcome := ((g.benchmarkWith overrides clock r).run s).1
    g.stages.map Prod.fst = g.pipeline ∧
    outcome.map (·.result) = compose overrides g.stages r ∧
    (∀ e, outcome = .error e ↔ ∃ before stage after r', g.stages = before ++ stage :: after ∧
      compose overrides before r = .ok r' ∧ stage.2.process (overrides.get? stage.1) r' = .error e) ∧
    (∀ b, outcome = .ok b → b.performance.map (·.name) = g.pipeline ∧
      ∀ i t, b.performance[i]? = some t →
        ∃ r', compose overrides (g.stages.take i) r = .ok r' ∧ t.recordsOnEntry = r'.size) ∧
    ∀ p q, g.pipeline = p ++ q → g.benchmarkWith overrides clock r = (do
      match ← { g with pipeline := p }.benchmarkWith overrides clock r with
      | .error e => pure (.error e)
      | .ok a =>
        let rest ← { g with pipeline := q }.benchmarkWith overrides clock a.result
        pure (rest.map a.andThen)) := by
  intro g outcome
  have hmade := madeBy_afterAll title description cs
  have hhas : ∀ name ∈ g.pipeline, g.has name := fun name hname => hmade.mem_pipeline_iff.1 hname
  have hresult : outcome.map (·.result) = compose overrides g.stages r := result_benchmarkWith hhas
  refine ⟨map_fst_nodesAt hhas, hresult, ?_, fun b hb => reports_benchmarkWith hhas hb, ?_⟩
  · intro e
    rw [← compose_eq_error_iff, ← hresult]
    cases outcome <;> simp [Except.map]
  · intro p q hsplit
    exact benchmarkWith_append hsplit r

end

open scoped Regex

/-- A stage that is repeated has its overrides both times. -/
theorem benchmarkWith_afterAll_repeated :
    let count := Node.ofOperator .aggregate .empty
    let g := (empty "T" "D").afterAll [.add "all" count, .append "all"]
    let overrides : Dict Parameters :=
      .ofList [("all", .ofList [("operation", .scalar (.string "histogramFrequency"))])]
    let clock : StateM Nat Nat := fun s => (s, s + 1)
    let r : Resource := ⟨"event", none, [.ofList [("contentValue", .null)]]⟩
    ∃ b, ((g.benchmarkWith overrides clock r).run 0).1 = .ok b ∧
      compose overrides g.stages r = .ok b.result ∧ b.performance.map (·.name) = g.pipeline := by
  intro count g overrides clock r
  obtain ⟨-, hresult, -, hreports, -⟩ :=
    benchmarkWith_afterAll "T" "D" [.add "all" count, .append "all"] overrides clock 0 r
  have hok : ((g.benchmarkWith overrides clock r).run 0).1.isOk := by decide +kernel
  cases hrun : ((g.benchmarkWith overrides clock r).run 0).1 with
  | error e =>
    rw [hrun] at hok
    cases hok
  | ok b =>
    refine ⟨b, rfl, ?_, (hreports b hrun).1⟩
    rw [← hresult]
    exact congrArg (Except.map (·.result)) hrun

end RecordFlow.Graph
