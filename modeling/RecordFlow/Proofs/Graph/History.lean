import RecordFlow.Proofs.Graph.Run
import RecordFlow.Proofs.Manifest.Reading
import RecordFlow.Regex.Engine

/-! # Histories of graphs

A graph comes about from an empty one by adding nodes and repeating stages. A change
that fails leaves the graph as it was. After any changes the stages are the names of
the accepted ones, the names that have a node are the stages, and each has the node
with which it was added. A manifest is read by changes that are all accepted.
-/

namespace RecordFlow

variable [Engine]

inductive Change where
  | add (name : String) (node : Node)
  | append (name : String)

namespace Change

def name : Change → String
  | add name _ => name
  | append name => name

def node? (name : String) : Change → Option Node
  | add key node => if key = name then some node else none
  | append _ => none

theorem name_of_node? {c : Change} {name : String} {node : Node} (h : c.node? name = some node) :
    c.name = name := by
  unfold node? at h
  split at h
  · split at h
    · assumption
    · cases h
  · cases h

end Change

namespace Graph

/-- Carries out a change: the graph after it, and whether it was refused. -/
def change (g : Graph) : Change → Graph × Except Error Unit
  | .add name node => g.add name node
  | .append name => g.append name

def after (g : Graph) (c : Change) : Graph := (g.change c).1

def afterAll (g : Graph) (cs : List Change) : Graph := cs.foldl after g

def accepted (g : Graph) : List Change → List Change
  | [] => []
  | c :: cs =>
    match (g.change c).2 with
    | .ok () => c :: accepted (g.after c) cs
    | .error _ => accepted (g.after c) cs

variable {g g' : Graph} {c : Change} {cs : List Change} {name : String} {node : Node} {e : Error}

theorem add_eq_error_iff : (g.add name node).2 = .error e ↔ g.has name ∧ e = .duplicateNode name := by
  unfold add
  split
  · next h => simp [h, eq_comm]
  · next h => simp [h]

theorem append_eq_error_iff : (g.append name).2 = .error e ↔ ¬ g.has name ∧ e = .unknownStage name := by
  unfold append
  split
  · next h => simp [h]
  · next h => simp [h, eq_comm]

/-- Names are looked up before anything is changed, so a refusal leaves the graph as it was. -/
theorem after_of_error (h : (g.change c).2 = .error e) : g.after c = g := by
  cases c with
  | add name node =>
    have hold := (add_eq_error_iff.1 h).1
    exact congrArg Prod.fst (if_pos hold)
  | append name =>
    have hnew := (append_eq_error_iff.1 h).1
    exact congrArg Prod.fst (if_neg hnew)

theorem change_eq_ok (h : (g.change c).2 = .ok ()) :
    (∃ name node, c = .add name node ∧ ¬ g.has name ∧
      g.after c = { g with pipeline := g.pipeline ++ [name], nodes := g.nodes.insert name node }) ∨
    (∃ name, c = .append name ∧ g.has name ∧ g.after c = { g with pipeline := g.pipeline ++ [name] }) := by
  cases c with
  | add name node =>
    have hnew : ¬ g.has name := fun hold => by
      rw [change, add_eq_error_iff.2 ⟨hold, rfl⟩] at h
      cases h
    exact .inl ⟨name, node, rfl, hnew, congrArg Prod.fst (if_neg hnew)⟩
  | append name =>
    have hold : g.has name := by
      by_contra hnew
      rw [change, append_eq_error_iff.2 ⟨hnew, rfl⟩] at h
      cases h
    exact .inr ⟨name, rfl, hold, congrArg Prod.fst (if_pos hold)⟩

theorem accepted_cons_ok (h : (g.change c).2 = .ok ()) (cs : List Change) :
    g.accepted (c :: cs) = c :: (g.after c).accepted cs := by
  rw [accepted, h]

theorem accepted_cons_error (h : (g.change c).2 = .error e) (cs : List Change) :
    g.accepted (c :: cs) = (g.after c).accepted cs := by
  rw [accepted, h]

/-- A graph that accepted changes have made. -/
structure MadeBy (title description : String) (done : List Change) (g : Graph) : Prop where
  title : g.title = title
  description : g.description = description
  pipeline : g.pipeline = done.map Change.name
  nodes : ∀ name, g.nodes.get? name = done.findSome? (Change.node? name)
  staged : ∀ c ∈ done, g.has c.name

variable {title description : String} {done : List Change}

theorem madeBy_empty (title description : String) : MadeBy title description [] (empty title description) where
  title := rfl
  description := rfl
  pipeline := rfl
  nodes _ := rfl
  staged _ h := nomatch h

theorem MadeBy.mem_pipeline_iff (h : MadeBy title description done g) :
    name ∈ g.pipeline ↔ g.has name := by
  rw [h.pipeline, List.mem_map]
  constructor
  · rintro ⟨c, hc, rfl⟩
    exact h.staged c hc
  · intro hhas
    obtain ⟨node, hnode⟩ := Option.isSome_iff_exists.1 hhas
    rw [h.nodes] at hnode
    obtain ⟨c, hc, hadded⟩ := List.exists_of_findSome?_eq_some hnode
    exact ⟨c, hc, c.name_of_node? hadded⟩

theorem MadeBy.change (h : MadeBy title description done g) (hc : (g.change c).2 = .ok ()) :
    MadeBy title description (done ++ [c]) (g.after c) := by
  rcases change_eq_ok hc with ⟨name, node, rfl, hnew, hafter⟩ | ⟨name, rfl, hold, hafter⟩ <;> rw [hafter]
  · have hnode : ∀ key, (g.nodes.insert name node).get? key =
        (done ++ [Change.add name node]).findSome? (Change.node? key) := by
      intro key
      rw [Dict.get?_insert, List.findSome?_append, ← h.nodes]
      by_cases hkey : key = name
      · have hnone : g.nodes.get? name = none := by simpa [has, Dict.contains] using hnew
        simp [hkey, hnone, Change.node?]
      · simp [hkey, Ne.symm hkey, Change.node?]
    refine ⟨h.title, h.description, ?_, hnode, ?_⟩
    · simp [h.pipeline, Change.name]
    · intro c hc
      simp only [has, Dict.contains, Dict.get?_insert]
      split
      · rfl
      · next hne =>
        rcases List.mem_append.1 hc with hc | hc
        · exact h.staged c hc
        · exact absurd (congrArg Change.name (List.mem_singleton.1 hc)) hne
  · refine ⟨h.title, h.description, ?_, ?_, ?_⟩
    · simp [h.pipeline, Change.name]
    · intro key
      rw [List.findSome?_append, ← h.nodes]
      simp [Change.node?]
    · intro c hc
      rcases List.mem_append.1 hc with hc | hc
      · exact h.staged c hc
      · rw [List.mem_singleton.1 hc]
        exact hold

theorem MadeBy.afterAll (h : MadeBy title description done g) (cs : List Change) :
    MadeBy title description (done ++ g.accepted cs) (g.afterAll cs) := by
  induction cs generalizing g done with
  | nil =>
    rw [accepted, List.append_nil]
    exact h
  | cons c cs ih =>
    show MadeBy _ _ _ ((g.after c).afterAll cs)
    cases hc : (g.change c).2 with
    | error e =>
      rw [accepted_cons_error hc, after_of_error hc]
      exact ih h
    | ok =>
      rw [accepted_cons_ok hc, ← List.singleton_append, ← List.append_assoc]
      exact ih (h.change hc)

theorem madeBy_afterAll (title description : String) (cs : List Change) :
    MadeBy title description ((empty title description).accepted cs) ((empty title description).afterAll cs) :=
  (madeBy_empty title description).afterAll cs

theorem runStage_of_node {overrides : Dict Parameters} (h : g.nodes.get? name = some node) (r : Resource) :
    g.runStage overrides name r = node.process (overrides.get? name) r := by
  rw [runStage, h]

theorem MadeBy.run_error (h : MadeBy title description done g) {overrides : Dict Parameters} {r : Resource}
    (hrun : g.run overrides r = .error e) :
    ∃ name ∈ g.pipeline, ∃ node r', g.nodes.get? name = some node ∧
      node.process (overrides.get? name) r' = .error e := by
  obtain ⟨name, hname, r', hstage⟩ := exists_of_runStages_error hrun
  obtain ⟨node, hnode⟩ := Option.isSome_iff_exists.1 (h.mem_pipeline_iff.1 hname)
  refine ⟨name, hname, node, r', hnode, ?_⟩
  rwa [runStage_of_node hnode] at hstage

open Manifest

variable {declared : Dict Node}

theorem ofChange_eq_ok_iff {result : Graph × Except Error Unit} : ofChange result = .ok g' ↔ result = (g', .ok ()) := by
  obtain ⟨g, outcome⟩ := result
  cases outcome <;> simp [ofChange, Except.map]

theorem change_of_addEntry {entry : String} (h : addEntry declared g entry = .ok g') :
    g' = g ∨ ∃ c, g.change c = (g', .ok ()) := by
  unfold addEntry at h
  split at h
  · cases h
    exact .inl rfl
  split at h
  · exact .inr ⟨.append entry, ofChange_eq_ok_iff.1 h⟩
  split at h
  · cases h
  · next node _ => exact .inr ⟨.add entry node, ofChange_eq_ok_iff.1 h⟩

theorem afterAll_of_foldlM {entries : List String} (h : entries.foldlM (addEntry declared) g = .ok g') :
    ∃ cs, g.afterAll cs = g' ∧ g.accepted cs = cs := by
  induction entries generalizing g with
  | nil =>
    cases h
    exact ⟨[], rfl, rfl⟩
  | cons entry entries ih =>
    rw [List.foldlM_cons] at h
    cases hentry : addEntry declared g entry with
    | error e =>
      rw [hentry] at h
      cases h
    | ok g₁ =>
      rw [hentry] at h
      obtain ⟨cs, hafter, haccepted⟩ := ih h
      rcases change_of_addEntry hentry with rfl | ⟨c, hc⟩
      · exact ⟨cs, hafter, haccepted⟩
      · refine ⟨c :: cs, ?_, ?_⟩
        · show (g.change c).1.afterAll cs = g'
          rw [hc, hafter]
        · rw [accepted_cons_ok (congrArg Prod.snd hc), after, hc, haccepted]

/-- A manifest is read by changes that are all accepted. -/
theorem afterAll_of_ofManifest {registry : Registry} {manifest : String}
    (h : ofManifest registry manifest = .ok g) :
    ∃ title description cs, (empty title description).afterAll cs = g ∧
      (empty title description).accepted cs = cs := by
  obtain ⟨title, description, pipeline, declared, -, hfold⟩ := foldlM_of_readLines (readLines_of_ofManifest h)
  exact ⟨title, description, afterAll_of_foldlM hfold⟩

/-- What holds of a graph that accepted changes have made. -/
structure Consistent (done : List Change) (g : Graph) : Prop where
  pipeline : g.pipeline = done.map Change.name
  mem_pipeline_iff : ∀ name, name ∈ g.pipeline ↔ name ∈ g.nodes.keys
  /-- A name keeps the node of the first change that added it. -/
  node : ∀ name, g.nodes.get? name = done.findSome? (Change.node? name)
  add_error_iff : ∀ name node e,
    (g.add name node).2 = .error e ↔ name ∈ g.nodes.keys ∧ e = .duplicateNode name
  append_error_iff : ∀ name e,
    (g.append name).2 = .error e ↔ name ∉ g.nodes.keys ∧ e = .unknownStage name
  unchanged : ∀ c e, (g.change c).2 = .error e → g.after c = g
  /-- No run fails because a stage has no node: its error is one that a node gave. -/
  run_error : ∀ overrides r e, g.run overrides r = .error e →
    ∃ name ∈ g.pipeline, ∃ node r', g.nodes.get? name = some node ∧
      node.process (overrides.get? name) r' = .error e

theorem MadeBy.consistent (h : MadeBy title description done g) : Consistent done g where
  pipeline := h.pipeline
  mem_pipeline_iff _ := h.mem_pipeline_iff.trans Dict.contains_iff_mem_keys
  node := h.nodes
  add_error_iff _ _ _ := add_eq_error_iff.trans (and_congr_left' Dict.contains_iff_mem_keys)
  append_error_iff _ _ := append_eq_error_iff.trans (and_congr_left' Dict.contains_iff_mem_keys.not)
  unchanged _ _ := after_of_error
  run_error _ _ _ := h.run_error

/-- A graph is consistent after any changes, whether they are accepted or not, and so is a graph that
is read from a manifest, as it is made by changes that are all accepted. -/
theorem consistent_histories :
    (∀ (title description : String) (cs : List Change),
      Consistent ((empty title description).accepted cs) ((empty title description).afterAll cs)) ∧
    ∀ (registry : Registry) (manifest : String) (g : Graph), ofManifest registry manifest = .ok g →
      ∃ title description done, (empty title description).afterAll done = g ∧
        (empty title description).accepted done = done ∧ Consistent done g := by
  constructor
  · intro title description cs
    exact (madeBy_afterAll title description cs).consistent
  · intro registry manifest g h
    obtain ⟨title, description, done, rfl, haccepted⟩ := afterAll_of_ofManifest h
    have hmade := madeBy_afterAll title description done
    rw [haccepted] at hmade
    exact ⟨title, description, done, rfl, haccepted, hmade.consistent⟩

end Graph

end RecordFlow

namespace RecordFlow.Graph

open Manifest

open scoped Regex

/-- A second node under a name is refused, and so is the repetition of a name that has no node yet. -/
theorem consistent_histories_twice :
    let limit := Node.ofOperator .limit .empty
    let input := Node.ofOperator .input .empty
    let manifest := "TITLE: T\nDESCRIPTION: D\nPIPELINE: n1 -> n1\nn1(\n  type: 'Limit'\n)"
    Consistent [.add "a" limit, .append "a"]
        ((empty "T" "D").afterAll [.append "a", .add "a" limit, .add "a" input, .append "a"]) ∧
      ∃ g done, ofManifest .standard manifest = .ok g ∧ Consistent done g := by
  intro limit input manifest
  refine ⟨consistent_histories.1 "T" "D" [.append "a", .add "a" limit, .add "a" input, .append "a"], ?_⟩
  have hok : (ofManifest .standard manifest).isOk := by decide +kernel
  cases hread : ofManifest .standard manifest with
  | error e =>
    rw [hread] at hok
    cases hok
  | ok g =>
    obtain ⟨-, -, done, -, -, hdone⟩ := consistent_histories.2 .standard manifest g hread
    exact ⟨g, done, rfl, hdone⟩

end RecordFlow.Graph
