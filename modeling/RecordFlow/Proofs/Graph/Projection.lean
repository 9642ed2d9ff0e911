import RecordFlow.Proofs.Graph.Exchange
import RecordFlow.Regex.Engine

/-! # Projecting stages

A stage that projects the records on listed fields may change places with a stage that keeps
or arranges records and looks at listed fields only. Two projecting stages in a row may be
replaced by one.
-/

namespace RecordFlow

variable [Engine]

namespace Operator

def projectionParameters (fields : List String) : Parameters :=
  .ofList [("fields", .array (fields.map .string))]

theorem asStrings?_strings (fields : List String) :
    (Literal.array (fields.map .string)).asStrings? = some fields := by
  show (fields.map Scalar.string).mapM (fun item => (Literal.scalar item).asString?) = some fields
  induction fields with
  | nil => rfl
  | cons field fields ih =>
    rw [List.map_cons, List.mapM_cons, ih]
    rfl

theorem plan_projectionParameters (fields : List String) :
    select.plan (projectionParameters fields) none = .ok (.select fields) := by
  have hschema : Resolved.ofSchema select.name select.schema (projectionParameters fields) none =
      .ok ⟨select.name, projectionParameters fields⟩ := Resolved.ofSchema_ofList rfl _
  refine (plan_eq_ok_iff (fun _ => rfl) fun _ => Action.select.inj).2 ⟨_, hschema, ?_⟩
  exact Resolved.read_of_some rfl (asStrings?_strings fields)

end Operator

namespace Graph

variable {g : Graph} {overrides : Dict Parameters} {name name' : String} {names names' : List String}
  {a b : Action} {fields others both : List String}

/-- Whether the node of a stage is that of an operator and accepts the parameters of its calls, which ask for a
certain action. -/
def Plans (g : Graph) (overrides : Dict Parameters) (name : String) (a : Action) : Prop :=
  ∃ o bound, g.nodes.get? name = some (.ofOperator o bound) ∧ o.plan bound (overrides.get? name) = .ok a

theorem Plans.runStage_eq (h : g.Plans overrides name a) (r : Resource) :
    g.runStage overrides name r = a.apply r := by
  obtain ⟨o, bound, hnode, hplan⟩ := h
  rw [runStage_of_node hnode, Node.process_ofOperator, hplan]
  rfl

theorem Plans.result_runStages_single (h : g.Plans overrides name a) (r : Resource) :
    (g.runStages overrides [name] r).map (·.result) = a.apply r := by
  rw [result_runStages_cons, h.runStage_eq]
  exact bind_pure (a.apply r)

theorem Plans.result_runStages_pair (h : g.Plans overrides name a) (h' : g.Plans overrides name' b) (r : Resource) :
    (g.runStages overrides [name, name'] r).map (·.result) = a.apply r >>= b.apply := by
  rw [result_runStages_cons, h.runStage_eq]
  exact bind_congr fun r' => h'.result_runStages_single r'

/-- Whether the stages of two lists of names may take the place of one another: they succeed, and end with the
same resource, and so do pipelines that differ in them only. -/
structure Interchangeable (g : Graph) (overrides : Dict Parameters) (names names' : List String) : Prop where
  alone : ∀ r, ∃ r', { g with pipeline := names }.execute overrides r = .ok r' ∧
    { g with pipeline := names' }.execute overrides r = .ok r'
  within : ∀ before after r, { g with pipeline := before ++ names ++ after }.execute overrides r =
    { g with pipeline := before ++ names' ++ after }.execute overrides r

theorem Interchangeable.of_results
    (h : ∀ r, ∃ r', (g.runStages overrides names r).map (·.result) = .ok r' ∧
      (g.runStages overrides names' r).map (·.result) = .ok r') : g.Interchangeable overrides names names' where
  alone r := by
    obtain ⟨r', hresult, hresult'⟩ := h r
    exact ⟨r', (execute_withPipeline names r).trans hresult, (execute_withPipeline names' r).trans hresult'⟩
  within before after r := by
    rw [execute_withPipeline, execute_withPipeline]
    refine result_runStages_replaced (fun r => ?_) before after r
    obtain ⟨r', hresult, hresult'⟩ := h r
    exact hresult.trans hresult'.symm

theorem interchangeable_of_choosesBy (h : g.Plans overrides name (.select fields))
    (h' : g.Plans overrides name' a) (ha : a.ChoosesBy fields) :
    g.Interchangeable overrides [name, name'] [name', name] := by
  refine .of_results fun r => ?_
  obtain ⟨records, happly, hproject⟩ := ha.apply_project r
  refine ⟨{ r with records := records.map (Operator.project fields) }, ?_, ?_⟩
  · rw [h.result_runStages_pair h']
    exact hproject
  · rw [h'.result_runStages_pair h, happly]
    rfl

theorem interchangeable_of_both {name'' : String} (h : g.Plans overrides name (.select fields))
    (h' : g.Plans overrides name' (.select others)) (h'' : g.Plans overrides name'' (.select both))
    (hboth : ∀ key, key ∈ both ↔ key ∈ fields ∧ key ∈ others) :
    g.Interchangeable overrides [name, name'] [name''] := by
  refine .of_results fun r => ⟨{ r with records := r.records.map (Operator.project both) }, ?_, ?_⟩
  · have hproject : Operator.project others ∘ Operator.project fields = Operator.project both :=
      funext (Operator.project_project hboth)
    rw [h.result_runStages_pair h', ← hproject, ← List.map_map]
    rfl
  · exact h''.result_runStages_single r

/-- A projection may be asked for with any list of fields. A stage that projects on listed fields may change
places with a stage that filters or sorts by one of them, or that limits the records. Two projecting stages in a
row may be replaced by one that projects on the fields that are in both lists. -/
theorem interchangeable_projection :
    (∀ fields, Operator.select.plan (Operator.projectionParameters fields) none = .ok (.select fields)) ∧
    ∀ (g : Graph) (overrides : Dict Parameters) (name : String) (fields : List String),
      g.Plans overrides name (.select fields) →
      (∀ name' a, g.Plans overrides name' a → a.ChoosesBy fields →
        g.Interchangeable overrides [name, name'] [name', name]) ∧
      ∀ name' name'' others both, g.Plans overrides name' (.select others) →
        g.Plans overrides name'' (.select both) → (∀ key, key ∈ both ↔ key ∈ fields ∧ key ∈ others) →
        g.Interchangeable overrides [name, name'] [name''] := by
  refine ⟨Operator.plan_projectionParameters, fun g overrides name fields h => ⟨?_, ?_⟩⟩
  · intro name' a h' ha
    exact interchangeable_of_choosesBy h h' ha
  · intro name' name'' others both h' h'' hboth
    exact interchangeable_of_both h h' h'' hboth

end Graph

end RecordFlow

namespace RecordFlow.Graph

open scoped Regex

/-- A projection lists a field twice. Records that lack the field they are sorted by may be sorted before or
after it, and a second projection leaves the one field that both of them list. -/
theorem interchangeable_projection_sort :
    let order : SortOrder := ⟨"at", .descending⟩
    let select (fields : List String) : Node := .ofOperator .select (Operator.projectionParameters fields)
    let nodes : List (String × Node) := [("fields", select ["at", "mark", "at"]),
      ("order", .ofOperator .sort order.toParameters), ("others", select ["by", "at"]), ("both", select ["at"])]
    let g : Graph := ⟨"T", "D", [], .ofList nodes⟩
    (g.Plans .empty "fields" (.select ["at", "mark", "at"]) ∧ g.Plans .empty "order" (.sort order) ∧
        g.Plans .empty "others" (.select ["by", "at"]) ∧ g.Plans .empty "both" (.select ["at"])) ∧
      (Action.sort order).ChoosesBy ["at", "mark", "at"] ∧
      (∀ key, key ∈ ["at"] ↔ key ∈ ["at", "mark", "at"] ∧ key ∈ ["by", "at"]) ∧
      g.Interchangeable .empty ["fields", "order"] ["order", "fields"] ∧
      g.Interchangeable .empty ["fields", "others"] ["both"] := by
  intro order select nodes g
  have hget (name : String) : g.nodes.get? name = List.lookup name nodes :=
    Dict.get?_ofList_of_nodup (by decide) name
  have hselect {name : String} {fields : List String} (h : List.lookup name nodes = some (select fields)) :
      g.Plans .empty name (.select fields) :=
    ⟨_, _, (hget name).trans h, interchangeable_projection.1 fields⟩
  have hfields : g.Plans .empty "fields" (.select ["at", "mark", "at"]) := hselect rfl
  have horder : g.Plans .empty "order" (.sort order) := ⟨_, _, hget "order", Operator.plan_toParameters order⟩
  have hothers : g.Plans .empty "others" (.select ["by", "at"]) := hselect rfl
  have hlast : g.Plans .empty "both" (.select ["at"]) := hselect rfl
  have hkey : (Action.sort order).ChoosesBy ["at", "mark", "at"] := List.mem_cons_self
  have hboth (key : String) : key ∈ ["at"] ↔ key ∈ ["at", "mark", "at"] ∧ key ∈ ["by", "at"] := by
    simp only [List.mem_cons, List.not_mem_nil, or_false]
    constructor
    · rintro rfl
      exact ⟨.inl rfl, .inr rfl⟩
    · rintro ⟨hfields, rfl | hat⟩
      · exact absurd hfields (by decide)
      · exact hat
  obtain ⟨hchooses, hprojects⟩ := interchangeable_projection.2 g .empty "fields" _ hfields
  exact ⟨⟨hfields, horder, hothers, hlast⟩, hkey, hboth, hchooses "order" _ horder hkey,
    hprojects "others" "both" _ _ hothers hlast hboth⟩

end RecordFlow.Graph
