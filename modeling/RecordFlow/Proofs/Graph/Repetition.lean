import RecordFlow.Proofs.Graph.Composition
import RecordFlow.Proofs.Operator.Failure
import RecordFlow.Proofs.Operator.Projection
import RecordFlow.Proofs.Operator.SortOrder
import RecordFlow.Regex.Engine

/-! # Repeated stages

An operator that neither coarsens nor aggregates leaves its own results as they are: the
records that it would drop, move or change are no longer there. So a stage of such an
operator may be named once more right after itself, and nothing changes.
-/

namespace RecordFlow

namespace Dict

variable {α : Type}

theorem insert_insert (d : Dict α) (key : String) (value : α) :
    (d.insert key value).insert key value = d.insert key value := by
  refine ext_get? fun k => ?_
  rw [get?_insert, get?_insert]
  split <;> rfl

end Dict

/-- Operators that keep, arrange, cut down or mark records, and leave their own results as they are. -/
def Operator.settling : List Operator := [input, limit, filter, sort, select, spoof]

variable [Engine]

variable {o : Operator} {bound : Parameters} {r r' : Resource}

theorem Action.apply_idempotent {a : Action} (ha : a.operator ∈ Operator.settling) (h : a.apply r = .ok r') :
    a.apply r' = .ok r' := by
  cases a with
  | pass => rfl
  | limit count =>
    cases h
    simp only [apply, List.take_take, Nat.min_self]
  | filter f =>
    cases h
    simp only [apply, Filter.apply, List.filter_filter, Bool.and_self]
  | sort s =>
    cases h
    simp only [apply, SortOrder.apply_apply]
  | select fields =>
    cases h
    have hsame (record : Record) : Operator.project fields (Operator.project fields record) =
        Operator.project fields record := Operator.project_project (fun _ => and_self_iff.symm) record
    simp only [apply, List.map_map, Function.comp_def, hsame]
  | spoof key value =>
    cases h
    simp only [apply, List.map_map, Function.comp_def, Dict.insert_insert]
  | fuzz f => exact absurd ha (show Operator.fuzz ∉ Operator.settling by decide)
  | aggregate a => exact absurd ha (show Operator.aggregate ∉ Operator.settling by decide)

/-- What a call of a settling operator has given is left as it is by the same call. -/
theorem Node.process_idempotent {overrides : Option Parameters} (ho : o ∈ Operator.settling)
    (h : (ofOperator o bound).process overrides r = .ok r') :
    (ofOperator o bound).process overrides r' = .ok r' := by
  rw [process_ofOperator] at h ⊢
  obtain ⟨a, hplan, happly⟩ := bind_eq_ok_iff.1 h
  have ha : a.operator ∈ Operator.settling := by rwa [Operator.operator_of_plan hplan]
  rw [hplan]
  exact a.apply_idempotent ha happly

namespace Graph

variable {g : Graph} {overrides : Dict Parameters} {name : String}

theorem runStages_withPipeline (pipeline names : List String) (r : Resource) :
    { g with pipeline }.runStages overrides names r = g.runStages overrides names r := by
  have hstage : ∀ name ∈ names, ∀ r, { g with pipeline }.runStage overrides name r =
      g.runStage overrides name r := fun _ _ _ => rfl
  exact runStages_congr hstage r

theorem result_runStages_cons (name : String) (names : List String) (r : Resource) :
    (g.runStages overrides (name :: names) r).map (·.result) =
      g.runStage overrides name r >>= fun r' => (g.runStages overrides names r').map (·.result) := by
  cases hstage : g.runStage overrides name r with
  | error e =>
    rw [runStages_cons_error hstage]
    rfl
  | ok r' =>
    rw [runStages_cons_ok hstage]
    show _ = (g.runStages overrides names r').map (·.result)
    cases g.runStages overrides names r' <;> rfl

theorem result_runStages_append (names more : List String) (r : Resource) :
    (g.runStages overrides (names ++ more) r).map (·.result) =
      (g.runStages overrides names r).map (·.result) >>= fun r' =>
        (g.runStages overrides more r').map (·.result) := by
  rw [runStages_append]
  cases g.runStages overrides names r with
  | error e => rfl
  | ok a =>
    show ((g.runStages overrides more a.result).map a.andThen).map _ =
      (g.runStages overrides more a.result).map _
    cases g.runStages overrides more a.result <;> rfl

/-- Stages that end with the same resource or error may take the place of one another in a pipeline. -/
theorem result_runStages_replaced {names names' : List String}
    (h : ∀ r, (g.runStages overrides names r).map (·.result) = (g.runStages overrides names' r).map (·.result))
    (before after : List String) (r : Resource) :
    (g.runStages overrides (before ++ names ++ after) r).map (·.result) =
      (g.runStages overrides (before ++ names' ++ after) r).map (·.result) := by
  simp only [result_runStages_append, h]

theorem result_runStages_repeated
    (h : ∀ r r', g.runStage overrides name r = .ok r' → g.runStage overrides name r' = .ok r')
    (before after : List String) (r : Resource) :
    (g.runStages overrides (before ++ name :: name :: after) r).map (·.result) =
      (g.runStages overrides (before ++ name :: after) r).map (·.result) := by
  have hpair (r : Resource) : (g.runStages overrides [name, name] r).map (·.result) =
      (g.runStages overrides [name] r).map (·.result) := by
    rw [result_runStages_cons, result_runStages_cons]
    cases hstage : g.runStage overrides name r with
    | error e => rfl
    | ok r' =>
      show (g.runStages overrides [name] r').map (·.result) = _
      rw [result_runStages_cons, h r r' hstage]
  have hreplaced := result_runStages_replaced hpair before after r
  rwa [List.append_assoc, List.append_assoc] at hreplaced

/-- A pipeline that names a stage of a settling operator twice in a row has the result or the error of
the pipeline that names it once, with any overrides and whether the run is timed or not. -/
theorem execute_repeated {o : Operator} {bound : Parameters} (ho : o ∈ Operator.settling)
    (hnode : g.nodes.get? name = some (.ofOperator o bound)) (before after : List String)
    (overrides : Dict Parameters) (r : Resource) :
    let twice := { g with pipeline := before ++ name :: name :: after }
    let once := { g with pipeline := before ++ name :: after }
    twice.execute overrides r = once.execute overrides r ∧
      ∀ {σ : Type} (clock : StateM σ Nat) (s : σ),
        ((twice.benchmarkWith overrides clock r).run s).1.map (·.result) =
          ((once.benchmarkWith overrides clock r).run s).1.map (·.result) := by
  intro twice once
  have hstage (r r' : Resource) (h : g.runStage overrides name r = .ok r') :
      g.runStage overrides name r' = .ok r' := by
    rw [runStage_of_node hnode] at h ⊢
    exact Node.process_idempotent ho h
  have hexecute : twice.execute overrides r = once.execute overrides r := by
    have htwice : twice.runStages overrides twice.pipeline r = g.runStages overrides twice.pipeline r :=
      runStages_withPipeline _ _ r
    have honce : once.runStages overrides once.pipeline r = g.runStages overrides once.pipeline r :=
      runStages_withPipeline _ _ r
    calc twice.execute overrides r
      _ = (g.runStages overrides (before ++ name :: name :: after) r).map (·.result) :=
        congrArg (Except.map _) htwice
      _ = (g.runStages overrides (before ++ name :: after) r).map (·.result) :=
        result_runStages_repeated hstage before after r
      _ = once.execute overrides r := congrArg (Except.map _) honce.symm
  refine ⟨hexecute, fun clock s => ?_⟩
  rw [result_benchmarkWith_eq_execute, result_benchmarkWith_eq_execute, hexecute]

end Graph

end RecordFlow

namespace RecordFlow.Graph

open scoped Regex

/-- Records in descending order of a field, with one that lacks it, are sorted twice. -/
theorem execute_repeated_sort :
    let sort := Node.ofOperator .sort
      (.ofList [("sortKey", .scalar (.string "at")), ("order", .scalar (.string "descending"))])
    let g : Graph := ⟨"T", "D", [], Dict.empty.insert "sort" sort⟩
    let r : Resource := ⟨"event", none,
      [.empty, .ofList [("at", .string "a")], .ofList [("at", .ofNat 1)], .ofList [("at", .ofNat 2)]]⟩
    ({ g with pipeline := ["sort", "sort"] }.execute .empty r).isOk ∧ Operator.sort ∈ Operator.settling ∧
      { g with pipeline := ["sort", "sort"] }.execute .empty r =
        { g with pipeline := ["sort"] }.execute .empty r := by
  intro sort g r
  refine ⟨by decide +kernel, by decide, ?_⟩
  exact (execute_repeated (by decide) rfl [] [] .empty r).1

end RecordFlow.Graph
