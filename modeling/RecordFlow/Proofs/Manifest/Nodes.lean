import RecordFlow.Proofs.Graph.Narrowing
import RecordFlow.Proofs.Manifest.Refusal

/-! # The nodes of manifests

Every node of a graph that was read was made by the registry, from the parameters of a
declaration. So what holds of all nodes that a registry makes holds of all nodes of the
graph, and a graph that was read against the standard registry is one of operators.
-/

namespace RecordFlow

variable [Engine]

namespace Manifest

variable {registry : Registry} {P : Node → Prop}

theorem Declaration.exists_create {d : Declaration} {node : Node} (h : d.node registry = .ok node) :
    ∃ type p, registry.create type p = .ok node := by
  by_cases hname : d.name = ""
  · rw [node_nameless hname] at h
    cases h
  · rw [node_named hname] at h
    obtain ⟨p, -, h⟩ := bind_eq_ok_iff.1 h
    obtain ⟨type, -, h⟩ := bind_eq_ok_iff.1 h
    exact ⟨type, p, h⟩

theorem forall_nodesOf (hcreate : ∀ type p node, registry.create type p = .ok node → P node)
    {ds : List Declaration} {nodes : List (String × Node)} (h : nodesOf registry ds = .ok nodes) :
    ∀ n ∈ nodes, P n.2 := by
  have hnodes := nodesOf_eq_ok_iff.1 h
  induction hnodes with
  | nil => exact nofun
  | cons hd hrest ih =>
    obtain ⟨type, p, hnode⟩ := Declaration.exists_create hd.2
    exact List.forall_mem_cons.2 ⟨hcreate type p _ hnode, ih (nodesOf_eq_ok_iff.2 hrest)⟩

theorem forall_declaredNodes (hcreate : ∀ type p node, registry.create type p = .ok node → P node)
    {block : List Char} {declared : Dict Node} (h : declaredNodes registry block = .ok declared) :
    ∀ name node, declared.get? name = some node → P node := by
  intro name node hnode
  unfold declaredNodes at h
  dsimp only at h
  split at h
  · cases h
  · next nodes hnodes =>
    split at h
    · cases h
    · cases h
      exact forall_nodesOf hcreate hnodes _ (Dict.mem_of_mem_ofList (Dict.get?_eq_some_iff.1 hnode))

theorem DrawnFrom.get?_declared {declared : Dict Node} {g : Graph} (h : DrawnFrom declared g) {name : String}
    {node : Node} (hnode : g.nodes.get? name = some node) : declared.get? name = some node := by
  rw [h.nodes] at hnode
  split at hnode
  · exact hnode
  · cases hnode

/-- What holds of all nodes that a registry makes holds of the nodes of a graph that was read against it. -/
theorem forall_ofManifest (hcreate : ∀ type p node, registry.create type p = .ok node → P node)
    {manifest : String} {g : Graph} (h : Graph.ofManifest registry manifest = .ok g) :
    ∀ name node, g.nodes.get? name = some node → P node := by
  obtain ⟨title, description, pipeline, declared, hdeclared, hfold⟩ :=
    foldlM_of_readLines (readLines_of_ofManifest h)
  have hdrawn : DrawnFrom declared g := ((drawnFrom_empty declared title description).of_foldlM_addEntry hfold).1
  intro name node hnode
  exact forall_declaredNodes hcreate hdeclared name node (hdrawn.get?_declared hnode)

end Manifest

theorem Registry.exists_of_create_standard {type : String} {p : Parameters} {node : Node}
    (h : standard.create type p = .ok node) : ∃ o bound, node = .ofOperator o bound := by
  unfold create at h
  split at h
  · cases h
  · next nodeType hlookup =>
    refine forall_registerAll (P := fun t => ∀ p node, t.create p = .ok node → ∃ o bound, node = .ofOperator o bound)
      ?_ ?_ type nodeType hlookup p node h
    · intro name type hlookup
      cases hlookup
    · intro e he p node h
      obtain ⟨o, -, rfl⟩ := List.mem_map.1 he
      cases h
      exact ⟨o, p, rfl⟩

theorem Graph.ofOperators_of_ofManifest {manifest : String} {g : Graph} (h : ofManifest .standard manifest = .ok g) :
    g.OfOperators :=
  Manifest.forall_ofManifest (fun _ _ _ hnode => Registry.exists_of_create_standard hnode) h

end RecordFlow
