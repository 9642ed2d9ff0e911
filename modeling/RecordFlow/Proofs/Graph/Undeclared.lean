import RecordFlow.Proofs.Graph.Run
import RecordFlow.Proofs.Resolution.Layers
import RecordFlow.Regex.Engine

/-! # Undeclared parameters

A node looks at no other parameters than those that its schema declares, and a run looks at
the overrides of its own stages only. So entries under other names, such as the type of a
node, may be written, changed or left out, and a run does not show it.
-/

namespace RecordFlow

variable [Engine]

namespace Node

variable {n n' : Node} {overrides overrides' : Option Parameters}

/-- Whether calls of two nodes may differ in undeclared parameters only: the nodes have all but their parameters
in common, and the bound parameters and the overrides agree on the names of the schema. -/
structure AgreeOnSchema (n : Node) (overrides : Option Parameters) (n' : Node) (overrides' : Option Parameters) :
    Prop where
  node : n' = n.withParameters n'.parameters
  bound : Dict.AgreeOn n.schema.names n'.parameters n.parameters
  overrides : Dict.AgreeOn n.schema.names (overrides'.getD .empty) (overrides.getD .empty)

theorem AgreeOnSchema.process_eq (h : n.AgreeOnSchema overrides n' overrides') (r : Resource) :
    n'.process overrides' r = n.process overrides r := by
  have hresolve : (n.withParameters n'.parameters).resolve overrides' = n.resolve overrides :=
    Resolved.ofSchema_of_agreeOn h.bound h.overrides
  rw [h.node, process, hresolve]
  rfl

end Node

namespace Graph

variable {g g' : Graph} {overrides overrides' : Dict Parameters} {name : String}

/-- Whether runs of two graphs may differ in undeclared parameters only: the graphs have the same pipeline, and
the calls of its stages differ in such parameters only. -/
structure AgreeOnSchemas (g : Graph) (overrides : Dict Parameters) (g' : Graph) (overrides' : Dict Parameters) :
    Prop where
  pipeline : g'.pipeline = g.pipeline
  stages : ∀ name ∈ g.pipeline,
    Option.Rel (fun n n' => n.AgreeOnSchema (overrides.get? name) n' (overrides'.get? name))
      (g.nodes.get? name) (g'.nodes.get? name)

theorem AgreeOnSchemas.runStage_eq (h : g.AgreeOnSchemas overrides g' overrides') (hname : name ∈ g.pipeline)
    (r : Resource) : g'.runStage overrides' name r = g.runStage overrides name r := by
  have hstage := h.stages name hname
  rw [runStage, runStage]
  generalize g.nodes.get? name = node at hstage ⊢
  generalize g'.nodes.get? name = node' at hstage ⊢
  cases hstage with
  | none => rfl
  | some hnode => exact hnode.process_eq r

/-- The parameters of a call are found as its schema says. Parameters that agree on the names of the schema are
resolved in the same way, and runs that differ in undeclared parameters only, or in overrides of names that
are not in the pipeline, have the same outcome, whether they are timed or not. -/
theorem run_of_agreeOnSchemas :
    (∀ nodeType schema bound overrides, Resolved.FollowsSchema nodeType schema bound overrides) ∧
    (∀ (nodeType : String) (schema : Schema) (bound bound' : Parameters) (overrides overrides' : Option Parameters),
      Dict.AgreeOn schema.names bound' bound →
      Dict.AgreeOn schema.names (overrides'.getD .empty) (overrides.getD .empty) →
      Resolved.ofSchema nodeType schema bound' overrides' = Resolved.ofSchema nodeType schema bound overrides) ∧
    ∀ (g g' : Graph) (overrides overrides' : Dict Parameters), g.AgreeOnSchemas overrides g' overrides' →
      (∀ r, g'.run overrides' r = g.run overrides r) ∧
      ∀ {m : Type → Type} [Monad m] (clock : m Nat) (r : Resource),
        g'.benchmarkWith overrides' clock r = g.benchmarkWith overrides clock r := by
  refine ⟨Resolved.followsSchema, ?_, fun g g' overrides overrides' h => ?_⟩
  · intro nodeType schema bound bound' overrides overrides' hbound hoverrides
    exact Resolved.ofSchema_of_agreeOn hbound hoverrides
  · have hstages : ∀ name ∈ g.pipeline, ∀ r, g'.runStage overrides' name r = g.runStage overrides name r :=
      fun name hname r => h.runStage_eq hname r
    constructor
    · intro r
      rw [run, run, h.pipeline]
      exact runStages_congr hstages r
    · intro m _ clock r
      rw [benchmarkWith, benchmarkWith, h.pipeline]
      exact timeStages_congr hstages r

end Graph

end RecordFlow

namespace RecordFlow.Graph

open scoped Regex

/-- A limit is given an entry for its type, an override that it does not declare is taken away, and there are
overrides for a name without a stage. -/
theorem run_of_agreeOnSchemas_limit :
    let bound : Parameters := .ofList [("count", .number (.ofNat 1))]
    let typed : Parameters := bound.insert "type" (.string "Limit")
    let graph (parameters : Parameters) : Graph :=
      ⟨"T", "D", ["some", "some"], Dict.empty.insert "some" (.ofOperator .limit parameters)⟩
    let noted : Parameters := .ofList [("count", .number (.ofNat 2)), ("note", .boolean true)]
    let overrides : Dict Parameters := .ofList [("some", noted)]
    let overrides' : Dict Parameters := .ofList [("some", noted.erase "note"), ("other", noted)]
    let r : Resource := ⟨"event", none, [.empty, .empty, .empty]⟩
    (Node.ofOperator .limit typed).resolve (some (noted.erase "note")) =
        (Node.ofOperator .limit bound).resolve (some noted) ∧
      (graph bound).AgreeOnSchemas overrides (graph typed) overrides' ∧
      ((graph bound).run overrides r).isOk ∧ (graph typed).run overrides' r = (graph bound).run overrides r := by
  intro bound typed graph noted overrides overrides' r
  have htype : Dict.AgreeOn Operator.limit.schema.names typed bound := Dict.agreeOn_insert (by decide) bound _
  have hnote : Dict.AgreeOn Operator.limit.schema.names (noted.erase "note") noted :=
    Dict.agreeOn_erase (by decide) noted
  have hagree : (graph bound).AgreeOnSchemas overrides (graph typed) overrides' := by
    refine ⟨rfl, fun name hname => ?_⟩
    obtain rfl : name = "some" := by simpa [graph] using hname
    have hget : overrides.get? "some" = some noted := Dict.get?_ofList_of_nodup (by decide) "some"
    have hget' : overrides'.get? "some" = some (noted.erase "note") := Dict.get?_ofList_of_nodup (by decide) "some"
    rw [hget, hget']
    exact .some ⟨rfl, htype, hnote⟩
  obtain ⟨-, hresolved, hrun⟩ := run_of_agreeOnSchemas
  exact ⟨hresolved _ _ _ _ _ _ htype hnote, hagree, by decide +kernel, (hrun _ _ _ _ hagree).1 r⟩

end RecordFlow.Graph
