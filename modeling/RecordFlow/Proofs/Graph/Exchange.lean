import RecordFlow.Proofs.Graph.Repetition
import RecordFlow.Proofs.Operator.Stability
import RecordFlow.Regex.Engine

/-! # Exchanged stages

Filters and sorts only choose and arrange records. A sort is stable, so it makes no
difference whether records are dropped before it or after it, and two filters drop the same
records in either order. A filter may therefore change places with a filter or a sort
next to it.
-/

namespace RecordFlow

/-- Operators that keep records, or put them in order. -/
def Operator.arranging : List Operator := [filter, sort]

variable [Engine]

namespace Action

def arrange : Action → List Record → List Record
  | filter f, records => f.apply records
  | sort s, records => s.apply records
  | _, records => records

theorem apply_eq_arrange {a : Action} (ha : a.operator ∈ Operator.arranging) (r : Resource) :
    a.apply r = .ok { r with records := a.arrange r.records } := by
  cases a with
  | filter f => rfl
  | sort s => rfl
  | pass | limit | select | fuzz | aggregate | spoof => simp [operator, Operator.arranging] at ha

/-- Two arranging actions may change places if one of them is a filter. -/
theorem arrange_comm {a b : Action} (h : a.operator = .filter ∨ b.operator = .filter)
    (ha : a.operator ∈ Operator.arranging) (hb : b.operator ∈ Operator.arranging) (records : List Record) :
    b.arrange (a.arrange records) = a.arrange (b.arrange records) := by
  cases a with
  | filter f =>
    cases b with
    | filter f' => exact List.filter_comm ..
    | sort s => exact (s.filter_apply f.keeps records).symm
    | pass | limit | select | fuzz | aggregate | spoof => simp [operator, Operator.arranging] at hb
  | sort s =>
    cases b with
    | filter f => exact s.filter_apply f.keeps records
    | sort s' => simp [operator] at h
    | pass | limit | select | fuzz | aggregate | spoof => simp [operator, Operator.arranging] at hb
  | pass | limit | select | fuzz | aggregate | spoof => simp [operator, Operator.arranging] at ha

end Action

namespace Node

variable {o o' : Operator} {bound bound' : Parameters} {overrides overrides' : Option Parameters}

/-- Whether a node takes its parameters: a call succeeds, whatever the resource of that call. -/
def Accepts (n : Node) (overrides : Option Parameters) : Prop := ∃ r r', n.process overrides r = .ok r'

theorem exists_plan_of_accepts (h : (ofOperator o bound).Accepts overrides) :
    ∃ a, o.plan bound overrides = .ok a ∧ a.operator = o := by
  obtain ⟨r, r', hprocess⟩ := h
  rw [process_ofOperator] at hprocess
  obtain ⟨a, hplan, -⟩ := bind_eq_ok_iff.1 hprocess
  exact ⟨a, hplan, Operator.operator_of_plan hplan⟩

/-- Calls of arranging operators that accept their parameters succeed, and may change places if one of
the operators is a filter. -/
theorem process_exchanged (h : o = .filter ∨ o' = .filter) (ho : o ∈ Operator.arranging)
    (ho' : o' ∈ Operator.arranging) (haccepts : (ofOperator o bound).Accepts overrides)
    (haccepts' : (ofOperator o' bound').Accepts overrides') (r : Resource) :
    ∃ r', (ofOperator o bound).process overrides r >>= (ofOperator o' bound').process overrides' = .ok r' ∧
      (ofOperator o' bound').process overrides' r >>= (ofOperator o bound).process overrides = .ok r' := by
  obtain ⟨a, hplan, rfl⟩ := exists_plan_of_accepts haccepts
  obtain ⟨b, hplan', rfl⟩ := exists_plan_of_accepts haccepts'
  have hprocess (r : Resource) : (ofOperator a.operator bound).process overrides r =
      .ok { r with records := a.arrange r.records } := by
    rw [process_ofOperator, hplan]
    exact Action.apply_eq_arrange ho r
  have hprocess' (r : Resource) : (ofOperator b.operator bound').process overrides' r =
      .ok { r with records := b.arrange r.records } := by
    rw [process_ofOperator, hplan']
    exact Action.apply_eq_arrange ho' r
  refine ⟨{ r with records := b.arrange (a.arrange r.records) }, ?_, ?_⟩
  · rw [hprocess]
    exact hprocess' _
  · rw [hprocess', Action.arrange_comm h ho ho']
    exact hprocess _

end Node

namespace Graph

variable {g : Graph} {overrides : Dict Parameters} {name name' : String}

theorem execute_withPipeline (pipeline : List String) (r : Resource) :
    { g with pipeline }.execute overrides r = (g.runStages overrides pipeline r).map (·.result) :=
  congrArg (Except.map _) (runStages_withPipeline pipeline pipeline r)

theorem result_runStages_pair (r : Resource) (after : List String) :
    (g.runStages overrides (name :: name' :: after) r).map (·.result) =
      (g.runStage overrides name r >>= g.runStage overrides name') >>= fun r' =>
        (g.runStages overrides after r').map (·.result) := by
  rw [result_runStages_cons, bind_assoc]
  exact bind_congr fun r' => result_runStages_cons name' after r'

theorem result_runStages_exchanged
    (h : ∀ r, g.runStage overrides name r >>= g.runStage overrides name' =
      g.runStage overrides name' r >>= g.runStage overrides name) (before after : List String) (r : Resource) :
    (g.runStages overrides (before ++ name :: name' :: after) r).map (·.result) =
      (g.runStages overrides (before ++ name' :: name :: after) r).map (·.result) := by
  have hpair (r : Resource) : (g.runStages overrides [name, name'] r).map (·.result) =
      (g.runStages overrides [name', name] r).map (·.result) := by
    rw [result_runStages_pair, result_runStages_pair, h]
  have hreplaced := result_runStages_replaced hpair before after r
  rwa [List.append_assoc, List.append_assoc] at hreplaced

/-- A filter and a filter or a sort, each with parameters that it accepts, end with the same resource in
both orders. So they may change places anywhere in a pipeline, with any overrides and whether the run is
timed or not. -/
theorem execute_exchanged {o o' : Operator} {bound bound' : Parameters} (h : o = .filter ∨ o' = .filter)
    (ho : o ∈ Operator.arranging) (ho' : o' ∈ Operator.arranging)
    (hnode : g.nodes.get? name = some (.ofOperator o bound))
    (hnode' : g.nodes.get? name' = some (.ofOperator o' bound'))
    (haccepts : (Node.ofOperator o bound).Accepts (overrides.get? name))
    (haccepts' : (Node.ofOperator o' bound').Accepts (overrides.get? name')) (r : Resource) :
    (∃ r', { g with pipeline := [name, name'] }.execute overrides r = .ok r' ∧
      { g with pipeline := [name', name] }.execute overrides r = .ok r') ∧
    ∀ before after : List String,
      let g₁ := { g with pipeline := before ++ name :: name' :: after }
      let g₂ := { g with pipeline := before ++ name' :: name :: after }
      g₁.execute overrides r = g₂.execute overrides r ∧
        ∀ {σ : Type} (clock : StateM σ Nat) (s : σ),
          ((g₁.benchmarkWith overrides clock r).run s).1.map (·.result) =
            ((g₂.benchmarkWith overrides clock r).run s).1.map (·.result) := by
  have hpair (r : Resource) : ∃ r', g.runStage overrides name r >>= g.runStage overrides name' = .ok r' ∧
      g.runStage overrides name' r >>= g.runStage overrides name = .ok r' := by
    have hstage : g.runStage overrides name = (Node.ofOperator o bound).process (overrides.get? name) :=
      funext fun r => runStage_of_node hnode r
    have hstage' : g.runStage overrides name' = (Node.ofOperator o' bound').process (overrides.get? name') :=
      funext fun r => runStage_of_node hnode' r
    rw [hstage, hstage']
    exact Node.process_exchanged h ho ho' haccepts haccepts' r
  constructor
  · obtain ⟨r', hthere, hback⟩ := hpair r
    refine ⟨r', ?_, ?_⟩
    · rw [execute_withPipeline, result_runStages_pair, hthere]
      rfl
    · rw [execute_withPipeline, result_runStages_pair, hback]
      rfl
  · intro before after g₁ g₂
    have hsame (r : Resource) : g.runStage overrides name r >>= g.runStage overrides name' =
        g.runStage overrides name' r >>= g.runStage overrides name := by
      obtain ⟨r', hthere, hback⟩ := hpair r
      exact hthere.trans hback.symm
    have hexecute : g₁.execute overrides r = g₂.execute overrides r := by
      rw [execute_withPipeline, execute_withPipeline]
      exact result_runStages_exchanged hsame before after r
    refine ⟨hexecute, fun clock s => ?_⟩
    rw [result_benchmarkWith_eq_execute, result_benchmarkWith_eq_execute, hexecute]

end Graph

end RecordFlow

namespace RecordFlow.Graph

open scoped Regex

/-- Records are sorted downwards by a field that one of them lacks, and those with a certain mark are
kept, in both orders. -/
theorem execute_exchanged_sort_filter :
    let order : SortOrder := ⟨"at", .descending⟩
    let marked : Parameters := .ofList [("target", .string "mark"), ("targetValue", .boolean true)]
    let g : Graph := ⟨"T", "D", [],
      .ofList [("sort", .ofOperator .sort order.toParameters), ("keep", .ofOperator .filter marked)]⟩
    let overrides : Dict Parameters := .empty
    let record (level : Nat) (mark : Bool) : Record := .ofList [("at", .ofNat level), ("mark", .bool mark)]
    let r : Resource := ⟨"event", none,
      [.ofList [("mark", .bool true)], record 1 true, record 3 false, record 2 true]⟩
    (Operator.filter ∈ Operator.arranging ∧ Operator.sort ∈ Operator.arranging) ∧
      ((Node.ofOperator .filter marked).Accepts (overrides.get? "keep") ∧
        (Node.ofOperator .sort order.toParameters).Accepts (overrides.get? "sort")) ∧
      ∃ r', { g with pipeline := ["keep", "sort"] }.execute overrides r = .ok r' ∧
        { g with pipeline := ["sort", "keep"] }.execute overrides r = .ok r' := by
  intro order marked g overrides record r
  have hfilter : Operator.filter ∈ Operator.arranging := by decide
  have hsort : Operator.sort ∈ Operator.arranging := by decide
  have hmarked : (Node.ofOperator .filter marked).Accepts (overrides.get? "keep") := by
    have hok : ((Node.ofOperator .filter marked).process none r).isOk := by decide +kernel
    cases hprocess : (Node.ofOperator .filter marked).process none r with
    | error e => rw [hprocess] at hok; cases hok
    | ok r' => exact ⟨r, r', hprocess⟩
  have horder : (Node.ofOperator .sort order.toParameters).Accepts (overrides.get? "sort") :=
    ⟨r, _, Node.process_of_plan_sort (Operator.plan_toParameters order) r⟩
  refine ⟨⟨hfilter, hsort⟩, ⟨hmarked, horder⟩, ?_⟩
  have hget (name : String) : g.nodes.get? name = List.lookup name
      [("sort", .ofOperator .sort order.toParameters), ("keep", .ofOperator .filter marked)] :=
    Dict.get?_ofList_of_nodup (by decide) name
  obtain ⟨⟨r', hthere, hback⟩, -⟩ :=
    execute_exchanged (.inl rfl) hfilter hsort (hget "keep") (hget "sort") hmarked horder r
  exact ⟨r', hthere, hback⟩

end RecordFlow.Graph
