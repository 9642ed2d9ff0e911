import RecordFlow.Proofs.Dict
import RecordFlow.Proofs.Operator.Action

/-! # Projected records

A projection keeps the values of the listed fields, and where one of them is missing it stays
missing. So a filter or a sort by a listed field decides as it does without the projection,
and a limit does not look at the fields at all. Two projections are one: that of the fields
that both of them list.
-/

namespace RecordFlow

namespace Operator

variable {fields others both : List String} {key : String}

theorem get?_project (fields : List String) (record : Record) (key : String) :
    (project fields record).get? key = if key ∈ fields then record.get? key else none := by
  simp only [project, Dict.get?_filterKeys, List.contains_iff_mem]

theorem get?_project_of_mem (h : key ∈ fields) (record : Record) :
    (project fields record).get? key = record.get? key := by
  rw [get?_project, if_pos h]

theorem project_project (h : ∀ key, key ∈ both ↔ key ∈ fields ∧ key ∈ others) (record : Record) :
    project others (project fields record) = project both record := by
  refine Dict.ext_get? fun key => ?_
  simp only [get?_project, h key]
  by_cases hkey : key ∈ fields <;> simp [hkey]

end Operator

open Operator (project)

variable {fields : List String}

theorem SortOrder.compare_project {s : SortOrder} (h : s.key ∈ fields) (a b : Record) :
    s.compare (project fields a) (project fields b) = s.compare a b := by
  rw [compare, Operator.get?_project_of_mem h, Operator.get?_project_of_mem h]
  rfl

theorem SortOrder.apply_map_project {s : SortOrder} (h : s.key ∈ fields) (records : List Record) :
    s.apply (records.map (project fields)) = (s.apply records).map (project fields) := by
  refine (List.map_mergeSort fun a _ b _ => ?_).symm
  rw [compare_project h]

variable [Engine]

theorem Filter.keeps_project {f : Filter} (h : f.target ∈ fields) (record : Record) :
    f.keeps (project fields record) = f.keeps record := by
  rw [keeps, Operator.get?_project_of_mem h]
  rfl

theorem Filter.apply_map_project {f : Filter} (h : f.target ∈ fields) (records : List Record) :
    f.apply (records.map (project fields)) = (f.apply records).map (project fields) := by
  have hkeeps : f.keeps ∘ project fields = f.keeps := funext (keeps_project h)
  rw [apply, List.filter_map, hkeeps]
  rfl

namespace Action

/-- Whether an action keeps or arranges records, and looks at no other fields than the listed ones. -/
def ChoosesBy (fields : List String) : Action → Prop
  | limit _ => True
  | filter f => f.target ∈ fields
  | sort s => s.key ∈ fields
  | _ => False

/-- An action that chooses by listed fields gives the projections of the records that it would have given. -/
theorem ChoosesBy.apply_project {a : Action} (h : a.ChoosesBy fields) (r : Resource) :
    ∃ records, a.apply r = .ok { r with records } ∧
      a.apply { r with records := r.records.map (project fields) } =
        .ok { r with records := records.map (project fields) } := by
  cases a with
  | limit count =>
    refine ⟨r.records.take count, rfl, ?_⟩
    rw [List.map_take]
    rfl
  | filter f =>
    refine ⟨f.apply r.records, rfl, ?_⟩
    rw [← f.apply_map_project h]
    rfl
  | sort s =>
    refine ⟨s.apply r.records, rfl, ?_⟩
    rw [← s.apply_map_project h]
    rfl
  | pass | select | fuzz | aggregate | spoof => exact h.elim

end Action

end RecordFlow
