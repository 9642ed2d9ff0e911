import RecordFlow.Proofs.Graph.Narrowing
import RecordFlow.Proofs.Registry
import RecordFlow.Proofs.Resolution
import RecordFlow.Regex.Engine

/-! # Overrides as rebuilding

A graph of operators can be rebuilt for overrides: each node for which there are some
is made anew by the standard registry, from its own parameters with the overrides
written over them. Running the rebuilt graph is running the first one with overrides.
-/

namespace RecordFlow

namespace Node

variable [Engine]

/-- The node for a stage with overrides: a node of the same type, made of the parameters of the first
one with the overrides written over them. -/
def rebuild (registry : Registry) (overrides : Option Parameters) (n : Node) : Except Error Node :=
  match overrides with
  | none => .ok n
  | some q => registry.create n.nodeType (n.parameters.overwrite q)

def overwritten (overrides : Option Parameters) (n : Node) : Node :=
  match overrides with
  | none => n
  | some q => n.withParameters (n.parameters.overwrite q)

theorem rebuild_ofOperator (o : Operator) (bound : Parameters) (overrides : Option Parameters) :
    (ofOperator o bound).rebuild .standard overrides = .ok ((ofOperator o bound).overwritten overrides) := by
  cases overrides with
  | none => rfl
  | some q => exact Registry.create_standard o (bound.overwrite q)

theorem process_overwritten (n : Node) (overrides : Option Parameters) (r : Resource) :
    (n.overwritten overrides).process none r = n.process overrides r := by
  cases overrides with
  | none => rfl
  | some q =>
    have hresolve : (n.overwritten (some q)).resolve none = n.resolve (some q) :=
      Resolved.ofSchema_overwrite n.nodeType n.schema n.parameters q
    rw [process, process, hresolve]
    rfl

end Node

namespace Graph

theorem mapM_eq_ok {ε α β : Type} {f : α → Except ε β} {value : α → β} {l : List α}
    (h : ∀ a ∈ l, f a = .ok (value a)) : l.mapM f = .ok (l.map value) := by
  induction l with
  | nil => rfl
  | cons a l ih =>
    obtain ⟨ha, hl⟩ := List.forall_mem_cons.1 h
    rw [List.mapM_cons, ha, ih hl]
    rfl

variable [Engine]

variable {g g' : Graph} {overrides : Dict Parameters}

/-- Makes the nodes for which there are overrides anew, and keeps the others. -/
def rebuild (registry : Registry) (overrides : Dict Parameters) (g : Graph) : Except Error Graph := do
  let nodes ← g.nodes.entries.mapM fun (name, node) => do
    return (name, ← node.rebuild registry (overrides.get? name))
  return { g with nodes := .ofList nodes }

def overwritten (overrides : Dict Parameters) (g : Graph) : Graph :=
  { g with nodes := .ofList (g.nodes.entries.map fun e => (e.1, e.2.overwritten (overrides.get? e.1))) }

theorem OfOperators.rebuild_eq (hg : g.OfOperators) (overrides : Dict Parameters) :
    g.rebuild .standard overrides = .ok (g.overwritten overrides) := by
  have hnodes : ∀ e ∈ g.nodes.entries,
      (do return (e.1, ← e.2.rebuild .standard (overrides.get? e.1)) : Except Error (String × Node)) =
        .ok (e.1, e.2.overwritten (overrides.get? e.1)) := by
    intro e he
    obtain ⟨o, bound, hnode⟩ := hg e.1 e.2 (Dict.get?_eq_some_iff.2 he)
    rw [hnode, Node.rebuild_ofOperator]
    rfl
  rw [rebuild, mapM_eq_ok hnodes]
  rfl

theorem get?_overwritten (overrides : Dict Parameters) (g : Graph) (name : String) :
    (g.overwritten overrides).nodes.get? name =
      (g.nodes.get? name).map (·.overwritten (overrides.get? name)) := by
  have hnodup : ((g.nodes.entries.map fun e => (e.1, e.2.overwritten (overrides.get? e.1))).map
      Prod.fst).Nodup := by
    rw [List.map_map]
    exact g.nodes.nodup_keys
  refine Option.ext fun node => ?_
  rw [overwritten, Dict.get?_ofList_of_nodup hnodup, lookup_eq_some_iff_mem hnodup, List.mem_map,
    Option.map_eq_some_iff]
  constructor
  · rintro ⟨⟨key, node⟩, hmem, heq⟩
    cases heq
    exact ⟨node, Dict.get?_eq_some_iff.2 hmem, rfl⟩
  · rintro ⟨node, hnode, rfl⟩
    exact ⟨(name, node), Dict.get?_eq_some_iff.1 hnode, rfl⟩

theorem runStage_overwritten (overrides : Dict Parameters) (g : Graph) (name : String) (r : Resource) :
    (g.overwritten overrides).runStage .empty name r = g.runStage overrides name r := by
  rw [runStage, runStage, get?_overwritten]
  cases g.nodes.get? name with
  | none => rfl
  | some node => exact node.process_overwritten (overrides.get? name) r

/-- A graph of operators can be rebuilt for any overrides: it keeps its stages, and a node for which there
are overrides gives place to one of the same type, made of its own parameters with the overrides written
over them. A run of the rebuilt graph is the run with overrides: it has the same result or the same
error, and the same numbers of records. -/
theorem benchmarkWith_eq_benchmark_rebuild (hg : g.OfOperators) (overrides : Dict Parameters) :
    ∃ g', g.rebuild .standard overrides = .ok g' ∧ g'.pipeline = g.pipeline ∧
      (∀ name, g'.nodes.get? name = (g.nodes.get? name).map (·.overwritten (overrides.get? name))) ∧
      ∀ {m : Type → Type} [Monad m] (clock : m Nat) (r : Resource),
        g'.benchmark clock r = g.benchmarkWith overrides clock r := by
  refine ⟨g.overwritten overrides, hg.rebuild_eq overrides, rfl, get?_overwritten overrides g, ?_⟩
  intro m _ clock r
  exact timeStages_congr (fun name _ r => runStage_overwritten overrides g name r) r

end Graph

end RecordFlow

namespace RecordFlow.Graph

open scoped Regex

/-- A limit without a count fails; with a count from the overrides it runs both times, and so does the
limit that is made anew. -/
theorem benchmarkWith_eq_benchmark_rebuild_limit :
    let limit := Node.ofOperator .limit .empty
    let g : Graph := ⟨"T", "D", ["some", "some"], Dict.empty.insert "some" limit⟩
    let overrides : Dict Parameters := .ofList [("some", .ofList [("count", .number (.ofNat 1))])]
    let clock : StateM Nat Nat := fun s => (s, s + 1)
    let r : Resource := ⟨"event", none, [.empty, .empty]⟩
    g.OfOperators ∧ ¬ ((g.benchmark clock r).run 0).1.isOk ∧
      ∃ g', g.rebuild .standard overrides = .ok g' ∧
        g'.benchmark clock r = g.benchmarkWith overrides clock r ∧ ((g'.benchmark clock r).run 0).1.isOk := by
  intro limit g overrides clock r
  have hg : g.OfOperators := by
    intro name node hnode
    rw [Dict.get?_insert] at hnode
    split at hnode
    · cases hnode
      exact ⟨.limit, .empty, rfl⟩
    · cases hnode
  obtain ⟨g', hrebuild, -, -, hrun⟩ := benchmarkWith_eq_benchmark_rebuild hg overrides
  have hok : ((g.benchmarkWith overrides clock r).run 0).1.isOk := by decide +kernel
  exact ⟨hg, by decide +kernel, g', hrebuild, hrun clock r, hrun clock r ▸ hok⟩

end RecordFlow.Graph
