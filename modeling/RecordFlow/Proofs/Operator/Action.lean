import RecordFlow.Operator.Transform

/-! # Operators as actions

What an operator does falls into two parts. It reads an action from its parameters,
whatever the records are, and it carries the action out, whatever the parameters
were. Only coarsening and aggregation may still fail in the second part.
-/

namespace RecordFlow

theorem bind_eq_ok_iff {ε α β : Type} {x : Except ε α} {f : α → Except ε β} {b : β} :
    x >>= f = .ok b ↔ ∃ a, x = .ok a ∧ f a = .ok b := by
  constructor
  · intro h
    cases x with
    | error e => cases h
    | ok a => exact ⟨a, rfl, h⟩
  · rintro ⟨a, rfl, h⟩
    exact h

theorem Aggregation.ofName?_eq_scalar_iff {name : String} {s : Summary} :
    ofName? name = some (scalar s) ↔ name = s.key := by
  constructor
  · intro h
    unfold ofName? at h
    split at h <;> cases h <;> rfl
  · rintro rfl
    cases s <;> rfl

variable [Engine]

/-- What an operator does once it has read its parameters. -/
inductive Action where
  | pass
  | limit (count : Nat)
  | filter (f : Filter)
  | sort (s : SortOrder)
  | select (fields : List String)
  | fuzz (f : Fuzz)
  | aggregate (a : Aggregate)
  | spoof (key : String) (value : Literal)

namespace Operator

def read : Operator → Resolved → Except Error Action
  | input, p => (p.string "resourceType").map fun _ => .pass
  | limit, p => (p.count "count").map .limit
  | filter, p => (Filter.ofParameters p).map .filter
  | sort, p => (SortOrder.ofParameters p).map .sort
  | select, p => (p.strings "fields").map .select
  | fuzz, p => (Fuzz.ofParameters p).map .fuzz
  | aggregate, p => (Aggregate.ofParameters p).map .aggregate
  | spoof, p => do return .spoof (← p.string "key") (← p.value "value")

end Operator

namespace Action

def apply : Action → Resource → Except Error Resource
  | pass, r => .ok r
  | limit count, r => .ok { r with records := r.records.take count }
  | filter f, r => .ok { r with records := f.apply r.records }
  | sort s, r => .ok { r with records := s.apply r.records }
  | select fields, r => .ok { r with records := r.records.map (Operator.project fields) }
  | fuzz f, r => Operator.fuzz.onData ((f.apply r.records).map fun records => { r with records })
  | aggregate a, r => Operator.aggregate.onData (a.apply r)
  | spoof key value, r => .ok { r with records := r.records.map (·.insert key value.toJson) }

end Action

namespace Operator

variable {o : Operator} {p : Resolved} {r r' : Resource}

theorem onData_eq_ok_iff {α : Type} {x : Except DataFault α} {a : α} : o.onData x = .ok a ↔ x = .ok a := by
  constructor
  · intro h
    cases x with
    | error fault => cases h
    | ok b =>
      cases h
      rfl
  · rintro rfl
    rfl

/-- An operator carries out the action that it reads from its parameters. -/
theorem transform_eq_bind (o : Operator) (p : Resolved) (r : Resource) :
    o.transform p r = (o.read p).bind (·.apply r) := by
  cases o with
  | input =>
    rw [transform, read]
    cases p.string "resourceType" <;> rfl
  | limit =>
    rw [transform, read]
    cases p.count "count" <;> rfl
  | filter =>
    rw [transform, read]
    cases Filter.ofParameters p <;> rfl
  | sort =>
    rw [transform, read]
    cases SortOrder.ofParameters p <;> rfl
  | select =>
    rw [transform, read]
    cases p.strings "fields" <;> rfl
  | fuzz =>
    rw [transform, read]
    cases Fuzz.ofParameters p with
    | error e => rfl
    | ok f =>
      show (fuzz.onData (f.apply r.records)).bind _ = fuzz.onData ((f.apply r.records).map _)
      cases f.apply r.records <;> rfl
  | aggregate =>
    rw [transform, read]
    cases Aggregate.ofParameters p <;> rfl
  | spoof =>
    rw [transform, read]
    cases p.string "key" with
    | error e => rfl
    | ok key => cases p.value "value" <;> rfl

theorem transform_eq_ok_iff : o.transform p r = .ok r' ↔ ∃ a, o.read p = .ok a ∧ a.apply r = .ok r' := by
  rw [transform_eq_bind]
  exact bind_eq_ok_iff

end Operator

theorem Resolved.choice_eq_ok_iff {p : Resolved} {α : Type} {key : String} {expected : Expectation}
    {ofName? : String → Option α} {a : α} :
    p.choice key expected ofName? = .ok a ↔ ∃ name, p.string key = .ok name ∧ ofName? name = some a := by
  unfold choice
  cases p.string key with
  | error e => simp
  | ok name => cases h : ofName? name <;> simp [h]

theorem Aggregate.aggregation_of_ofParameters {p : Resolved} {a : Aggregate}
    (h : Aggregate.ofParameters p = .ok a) :
    ∃ name, p.string "operation" = .ok name ∧ Aggregation.ofName? name = some a.aggregation := by
  obtain ⟨aggregation, hchoice, h⟩ := bind_eq_ok_iff.1 h
  obtain ⟨target, -, h⟩ := bind_eq_ok_iff.1 h
  obtain ⟨groupKey, -, h⟩ := bind_eq_ok_iff.1 h
  cases h
  exact Resolved.choice_eq_ok_iff.1 hchoice

end RecordFlow
