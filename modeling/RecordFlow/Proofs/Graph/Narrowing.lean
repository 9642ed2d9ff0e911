import RecordFlow.Proofs.Graph.Composition
import RecordFlow.Proofs.Operator.Narrowing
import RecordFlow.Regex.Engine

/-! # What runs leave alone

In a graph of operators no stage hands on more records than it was given, or records
of another type. The metadata stays as it is as long as no stage writes a summary.
After such a stage there is metadata, with the values from before under all keys but
those of summaries.
-/

namespace RecordFlow

variable {r r' : Resource}

/-- The numbers of records that the stages of a run were given, and at last that of the result. -/
def Run.sizes (run : Run) : List Nat := run.stages.map (·.recordsOnEntry) ++ [run.result.size]

variable [Engine]

namespace Node

variable {n : Node} {overrides : Option Parameters}

/-- Whether a call of a node writes a summary into the metadata: it does so if the node aggregates, and
the name of the operation is the key of a summary. -/
def Summarizes (n : Node) (overrides : Option Parameters) : Prop :=
  n.nodeType = Operator.aggregate.name ∧
    ∃ p, n.resolve overrides = .ok p ∧ ∃ s : Summary, p.string "operation" = .ok s.key

theorem process_eq_ok_iff :
    n.process overrides r = .ok r' ↔ ∃ p, n.resolve overrides = .ok p ∧ n.transform p r = .ok r' := by
  unfold process
  cases n.resolve overrides with
  | error e => simp
  | ok p => simp

theorem narrows_ofOperator {o : Operator} {bound : Parameters}
    (h : (ofOperator o bound).process overrides r = .ok r') :
    Narrows ((ofOperator o bound).Summarizes overrides) r r' := by
  obtain ⟨p, hresolve, htransform⟩ := process_eq_ok_iff.1 h
  have hname : o.name = Operator.aggregate.name ↔ o = .aggregate := by cases o <;> decide
  have hsame : (ofOperator o bound).Summarizes overrides ↔ o.Summarizes p := by
    unfold Summarizes Operator.Summarizes
    rw [hresolve]
    simp [ofOperator, hname]
  exact (Operator.narrows htransform).congr hsame

end Node

namespace Graph

variable {g : Graph} {overrides : Dict Parameters} {name : String} {names : List String} {run : Run}

/-- Every node is that of an operator that comes with the library. -/
def OfOperators (g : Graph) : Prop :=
  ∀ name node, g.nodes.get? name = some node → ∃ o bound, node = Node.ofOperator o bound

theorem runStage_eq_ok_iff :
    g.runStage overrides name r = .ok r' ↔
      ∃ node, g.nodes.get? name = some node ∧ node.process (overrides.get? name) r = .ok r' := by
  unfold runStage
  cases g.nodes.get? name with
  | none => simp
  | some node => simp

theorem OfOperators.narrows_runStage (hg : g.OfOperators) (h : g.runStage overrides name r = .ok r') :
    ∃ node, g.nodes.get? name = some node ∧ Narrows (node.Summarizes (overrides.get? name)) r r' := by
  obtain ⟨node, hnode, hprocess⟩ := runStage_eq_ok_iff.1 h
  obtain ⟨o, bound, rfl⟩ := hg name node hnode
  exact ⟨_, hnode, Node.narrows_ofOperator hprocess⟩

theorem OfOperators.narrows_runStages (hg : g.OfOperators)
    (hrun : g.runStages overrides names r = .ok run) :
    Narrows (∃ stage ∈ g.nodesAt names, stage.2.Summarizes (overrides.get? stage.1)) r run.result := by
  induction names generalizing r run with
  | nil =>
    cases hrun
    exact (Narrows.refl r).congr (by simp [nodesAt])
  | cons name names ih =>
    obtain ⟨r', rest, hstage, hrest, rfl⟩ := runStages_cons_eq_ok hrun
    obtain ⟨node, hnode, hnarrows⟩ := hg.narrows_runStage hstage
    rw [nodesAt_cons hnode]
    exact (hnarrows.trans (ih hrest)).congr (List.exists_mem_cons_iff _ _ _)

theorem OfOperators.pairwise_sizes_runStages (hg : g.OfOperators)
    (hrun : g.runStages overrides names r = .ok run) :
    run.sizes.Pairwise (· ≥ ·) ∧ ∀ n ∈ run.sizes, n ≤ r.size := by
  induction names generalizing r run with
  | nil =>
    cases hrun
    simp [Run.sizes]
  | cons name names ih =>
    obtain ⟨r', rest, hstage, hrest, rfl⟩ := runStages_cons_eq_ok hrun
    obtain ⟨node, -, hnarrows⟩ := hg.narrows_runStage hstage
    obtain ⟨hpairwise, hbound⟩ := ih hrest
    have hrestSizes : ∀ n ∈ rest.sizes, n ≤ r.size := fun n hn => (hbound n hn).trans hnarrows.size_le
    show (r.size :: rest.sizes).Pairwise (· ≥ ·) ∧ ∀ n ∈ r.size :: rest.sizes, n ≤ r.size
    constructor
    · exact List.pairwise_cons.2 ⟨hrestSizes, hpairwise⟩
    · exact List.forall_mem_cons.2 ⟨le_rfl, hrestSizes⟩

/-- In a run of a graph of operators no stage is given more records than one before it. The result has
no more than the last stage was given, and the type of the resource that was run. Its metadata is as
before, unless a stage writes a summary; then there is metadata, and the keys that are not those of
summaries have the values that they had. -/
theorem narrows_run (hg : g.OfOperators) (hrun : g.run overrides r = .ok run) :
    run.sizes.Pairwise (· ≥ ·) ∧
      Narrows (∃ stage ∈ g.stages, stage.2.Summarizes (overrides.get? stage.1)) r run.result :=
  ⟨(hg.pairwise_sizes_runStages hrun).1, hg.narrows_runStages hrun⟩

end Graph

end RecordFlow

namespace RecordFlow.Graph

open scoped Regex

/-- Records are counted twice: the first count leaves none of them to the second. -/
theorem narrows_run_count_twice :
    let count := Node.ofOperator .aggregate .empty
    let g : Graph := ⟨"T", "D", ["count", "count"], Dict.empty.insert "count" count⟩
    let r : Resource := ⟨"event", none, [.ofList [("contentValue", .null)]]⟩
    g.OfOperators ∧ ∃ run, g.run .empty r = .ok run ∧ run.sizes.Pairwise (· ≥ ·) ∧
      Narrows (∃ stage ∈ g.stages, stage.2.Summarizes none) r run.result := by
  intro count g r
  have hg : g.OfOperators := by
    intro name node hnode
    rw [Dict.get?_insert] at hnode
    split at hnode
    · cases hnode
      exact ⟨.aggregate, .empty, rfl⟩
    · cases hnode
  have hok : (g.run .empty r).isOk := by decide +kernel
  cases hrun : g.run .empty r with
  | error e =>
    rw [hrun] at hok
    cases hok
  | ok run => exact ⟨hg, run, rfl, narrows_run hg hrun⟩

end RecordFlow.Graph
