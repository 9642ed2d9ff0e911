import RecordFlow.Node
import RecordFlow.Proofs.Operator.Action
import RecordFlow.Proofs.Resolution
import RecordFlow.Regex.Engine

/-! # How operators fail

A call fails for a parameter that has no value, for a parameter whose value is not what
the operator expects, or for the records. The first two are found before any record is
looked at, so they do not depend on the records. Only coarsening and aggregation fail
for the records.
-/

namespace RecordFlow

variable [Engine]

/-- Whatever error a computation fails with, it is of a certain kind. -/
def FailsBy {α : Type} (P : Error → Prop) (x : Except Error α) : Prop := ∀ e, x = .error e → P e

namespace FailsBy

variable {α β : Type} {P : Error → Prop} {x : Except Error α}

theorem ok (P : Error → Prop) (a : α) : FailsBy P (.ok a) := nofun

theorem error {e : Error} (h : P e) : FailsBy P (.error e : Except Error α) := by
  rintro _ ⟨⟩
  exact h

theorem map (h : FailsBy P x) (f : α → β) : FailsBy P (x.map f) := by
  cases x with
  | error e => exact error (h e rfl)
  | ok a => exact ok P (f a)

theorem bind {f : α → Except Error β} (h : FailsBy P x) (hf : ∀ a, x = .ok a → FailsBy P (f a)) :
    FailsBy P (x >>= f) := by
  cases x with
  | error e => exact error (h e rfl)
  | ok a => exact hf a rfl

end FailsBy

namespace Resolved

variable {p : Resolved} {key : String} {α : Type}

/-- The error names a parameter, and the value that it has. -/
def Misfit (p : Resolved) (e : Error) : Prop :=
  ∃ key expected actual, p.get? key = some actual ∧ e = .invalidParameter p.nodeType key expected actual

theorem value_failsBy (h : (p.get? key).isSome) : FailsBy p.Misfit (p.value key) := by
  obtain ⟨v, hv⟩ := Option.isSome_iff_exists.1 h
  rw [value_eq_ok_iff.2 hv]
  exact .ok _ v

theorem read_failsBy (h : (p.get? key).isSome) (expected : Expectation) (as? : Literal → Option α) :
    FailsBy p.Misfit (p.read key expected as?) := by
  obtain ⟨v, hv⟩ := Option.isSome_iff_exists.1 h
  cases ha : as? v with
  | none =>
    rw [read_of_none hv ha]
    exact .error ⟨key, expected, v, hv, rfl⟩
  | some a =>
    rw [read_of_some hv ha]
    exact .ok _ a

theorem choice_failsBy (h : (p.get? key).isSome) (expected : Expectation) (ofName? : String → Option α) :
    FailsBy p.Misfit (p.choice key expected ofName?) := by
  have hstring := read_failsBy h .string Literal.asString?
  cases hname : p.string key with
  | error e =>
    simp only [choice, hname]
    exact .error (hstring e hname)
  | ok name =>
    simp only [choice, hname]
    cases ofName? name with
    | none => exact .error ⟨key, expected, .string name, string_eq_ok_iff.1 hname, rfl⟩
    | some a => exact .ok _ a

end Resolved

section

variable {p : Resolved}

theorem Resolved.Covers.isSome {schema : Schema} (hp : p.Covers schema) (key : String)
    (h : schema.names.contains key) : (p.get? key).isSome :=
  hp key (List.contains_iff_mem.1 h)

theorem Filter.failsBy_ofParameters (hp : p.Covers Operator.filter.schema) :
    FailsBy p.Misfit (Filter.ofParameters p) := by
  refine .bind (Resolved.choice_failsBy (hp.isSome "operation" rfl) _ _) fun comparison _ => ?_
  refine .bind (Resolved.read_failsBy (hp.isSome "target" rfl) _ _) fun target _ => ?_
  refine .bind (Resolved.value_failsBy (hp.isSome "targetValue" rfl)) fun literal hliteral => ?_
  split
  · exact .error ⟨"targetValue", .pattern, literal, Resolved.value_eq_ok_iff.1 hliteral, rfl⟩
  · exact .ok _ _

theorem SortOrder.failsBy_ofParameters (hp : p.Covers Operator.sort.schema) :
    FailsBy p.Misfit (SortOrder.ofParameters p) := by
  refine .bind (Resolved.read_failsBy (hp.isSome "sortKey" rfl) _ _) fun key _ => ?_
  exact .bind (Resolved.choice_failsBy (hp.isSome "order" rfl) _ _) fun direction _ => .ok _ _

theorem Fuzz.failsBy_ofParameters (hp : p.Covers Operator.fuzz.schema) :
    FailsBy p.Misfit (Fuzz.ofParameters p) := by
  refine .bind (Resolved.read_failsBy (hp.isSome "target" rfl) _ _) fun target _ => ?_
  refine .bind (Resolved.choice_failsBy (hp.isSome "fuzzType" rfl) _ _) fun isRange _ => ?_
  split
  · exact .bind (Resolved.choice_failsBy (hp.isSome "rangeType" rfl) _ _) fun bin _ => .ok _ _
  · exact .ok _ _

theorem Aggregate.failsBy_ofParameters (hp : p.Covers Operator.aggregate.schema) :
    FailsBy p.Misfit (Aggregate.ofParameters p) := by
  refine .bind (Resolved.choice_failsBy (hp.isSome "operation" rfl) _ _) fun aggregation _ => ?_
  refine .bind (Resolved.read_failsBy (hp.isSome "target" rfl) _ _) fun target _ => ?_
  exact .bind (Resolved.read_failsBy (hp.isSome "groupKey" rfl) _ _) fun groupKey _ => .ok _ _

/-- If its schema is covered, an operator fails to read an action only for a value that does not fit: it
reads no parameter that its schema does not declare. -/
theorem Operator.failsBy_read (o : Operator) (hp : p.Covers o.schema) : FailsBy p.Misfit (o.read p) := by
  cases o with
  | input => exact .map (Resolved.read_failsBy (hp.isSome "resourceType" rfl) _ _) _
  | limit => exact .map (Resolved.read_failsBy (hp.isSome "count" rfl) _ _) _
  | filter => exact .map (Filter.failsBy_ofParameters hp) _
  | sort => exact .map (SortOrder.failsBy_ofParameters hp) _
  | select => exact .map (Resolved.read_failsBy (hp.isSome "fields" rfl) _ _) _
  | fuzz => exact .map (Fuzz.failsBy_ofParameters hp) _
  | aggregate => exact .map (Aggregate.failsBy_ofParameters hp) _
  | spoof =>
    refine .bind (Resolved.read_failsBy (hp.isSome "key" rfl) _ _) fun key _ => ?_
    exact .bind (Resolved.value_failsBy (hp.isSome "value" rfl)) fun value _ => .ok _ _

end

def Action.operator : Action → Operator
  | pass => .input
  | limit _ => .limit
  | filter _ => .filter
  | sort _ => .sort
  | select _ => .select
  | fuzz _ => .fuzz
  | aggregate _ => .aggregate
  | spoof _ _ => .spoof

theorem Operator.operator_of_read {o : Operator} {p : Resolved} {a : Action} (h : o.read p = .ok a) :
    a.operator = o := by
  cases o with
  | spoof =>
    obtain ⟨key, -, h⟩ := bind_eq_ok_iff.1 h
    obtain ⟨value, -, h⟩ := bind_eq_ok_iff.1 h
    cases h
    rfl
  | input | limit | filter | sort | select | fuzz | aggregate =>
    obtain ⟨b, -, rfl⟩ := Literal.map_eq_ok h
    rfl

/-- An error of an operator that cannot work on the records. Only coarsening and aggregation have such
errors. -/
def Operator.OfData (o : Operator) (e : Error) : Prop :=
  (o = .fuzz ∨ o = .aggregate) ∧ ∃ fault, e = .nodeFailure o.name fault

theorem Operator.failsBy_onData {o : Operator} (ho : o = .fuzz ∨ o = .aggregate) {α : Type}
    (x : Except DataFault α) : FailsBy o.OfData (o.onData x) := by
  cases x with
  | error fault => exact .error ⟨ho, fault, rfl⟩
  | ok a => exact .ok _ a

theorem Action.failsBy_apply (a : Action) (r : Resource) : FailsBy a.operator.OfData (a.apply r) := by
  cases a with
  | fuzz f => exact Operator.failsBy_onData (.inl rfl) _
  | aggregate a => exact Operator.failsBy_onData (.inr rfl) _
  | pass | limit | filter | sort | select | spoof => exact .ok _ _

def Error.OfParameter : Error → Prop
  | .mandatoryParameter _ _ => True
  | .invalidParameter _ _ _ _ => True
  | _ => False

variable {o : Operator} {bound : Parameters} {overrides : Option Parameters} {r : Resource} {e : Error}

theorem Operator.OfData.not_ofParameter (h : o.OfData e) : ¬ e.OfParameter := by
  obtain ⟨-, fault, rfl⟩ := h
  exact id

namespace Operator

/-- The action that a call asks for. It does not depend on the resource. -/
def plan (o : Operator) (bound : Parameters) (overrides : Option Parameters) : Except Error Action :=
  Resolved.ofSchema o.name o.schema bound overrides >>= o.read

theorem plan_eq_ok_iff {α : Type} {reader : Resolved → Except Error α} {action : α → Action} {x : α}
    (hread : ∀ p, o.read p = (reader p).map action) (hinjective : ∀ y, action y = action x → y = x) :
    o.plan bound overrides = .ok (action x) ↔
      ∃ p, Resolved.ofSchema o.name o.schema bound overrides = .ok p ∧ reader p = .ok x := by
  refine bind_eq_ok_iff.trans (exists_congr fun p => and_congr_right fun _ => ?_)
  rw [hread]
  constructor
  · intro h
    obtain ⟨y, hy, heq⟩ := Literal.map_eq_ok h
    rw [hy, hinjective y heq]
  · intro h
    rw [h]
    rfl

theorem plan_eq_error (h : o.plan bound overrides = .error e) :
    Resolved.ofSchema o.name o.schema bound overrides = .error e ∨
      ∃ key expected actual, e = .invalidParameter o.name key expected actual := by
  unfold plan at h
  cases hresolve : Resolved.ofSchema o.name o.schema bound overrides with
  | error e' =>
    rw [hresolve] at h
    cases h
    exact .inl rfl
  | ok p =>
    rw [hresolve] at h
    obtain ⟨htype, hcovers⟩ := Resolved.covers_of_ofSchema hresolve
    obtain ⟨key, expected, actual, -, rfl⟩ := o.failsBy_read hcovers e h
    exact .inr ⟨key, expected, actual, by rw [htype]⟩

theorem failsBy_plan (o : Operator) (bound : Parameters) (overrides : Option Parameters) :
    FailsBy Error.OfParameter (o.plan bound overrides) := by
  intro e h
  rcases plan_eq_error h with hresolve | ⟨key, expected, actual, rfl⟩
  · obtain ⟨p, -, rfl⟩ := Resolved.ofSchema_eq_error_iff.1 hresolve
    exact trivial
  · exact trivial

/-- Planning misses a parameter if and only if resolution does. -/
theorem plan_eq_mandatory_iff {type key : String} :
    o.plan bound overrides = .error (.mandatoryParameter type key) ↔
      type = o.name ∧ (o.schema.properties.find? (·.isUnset bound overrides)).map (·.name) = some key := by
  constructor
  · intro h
    rcases plan_eq_error h with hresolve | ⟨key, expected, actual, heq⟩
    · obtain ⟨p, hfind, heq⟩ := Resolved.ofSchema_eq_error_iff.1 hresolve
      cases heq
      exact ⟨rfl, by rw [hfind]; rfl⟩
    · cases heq
  · rintro ⟨rfl, hkey⟩
    obtain ⟨p, hfind, rfl⟩ := Option.map_eq_some_iff.1 hkey
    rw [plan, Resolved.ofSchema_eq_error_iff.2 ⟨p, hfind, rfl⟩]
    rfl

theorem operator_of_plan {a : Action} (h : o.plan bound overrides = .ok a) : a.operator = o := by
  obtain ⟨p, -, hread⟩ := bind_eq_ok_iff.1 h
  exact operator_of_read hread

end Operator

namespace Node

theorem process_ofOperator (o : Operator) (bound : Parameters) (overrides : Option Parameters) (r : Resource) :
    (ofOperator o bound).process overrides r = o.plan bound overrides >>= (·.apply r) := by
  have hresolve : (ofOperator o bound).resolve overrides =
      Resolved.ofSchema o.name o.schema bound overrides := rfl
  rw [process, hresolve, Operator.plan]
  cases Resolved.ofSchema o.name o.schema bound overrides with
  | error e => rfl
  | ok p => exact o.transform_eq_bind p r

theorem process_eq_error (h : (ofOperator o bound).process overrides r = .error e) :
    o.plan bound overrides = .error e ∨ o.OfData e := by
  rw [process_ofOperator] at h
  cases hplan : o.plan bound overrides with
  | error e' =>
    rw [hplan] at h
    cases h
    exact .inl rfl
  | ok a =>
    rw [hplan] at h
    exact .inr (Operator.operator_of_plan hplan ▸ a.failsBy_apply r e h)

theorem process_eq_error_iff (he : e.OfParameter) :
    (ofOperator o bound).process overrides r = .error e ↔ o.plan bound overrides = .error e := by
  constructor
  · intro h
    exact (process_eq_error h).resolve_right fun hdata => hdata.not_ofParameter he
  · intro h
    rw [process_ofOperator, h]
    rfl

/-- Errors of parameters do not depend on the records. A parameter is missing if and only if resolution
finds no value for it, and the first such property in the order of the schema is named; once parameters
are resolved, none is missing. Every other error is one of coarsening or aggregation for the records, and
no other error depends on them. -/
theorem process_errors (o : Operator) (bound : Parameters) (overrides : Option Parameters) :
    let n := ofOperator o bound
    (∀ r₁ r₂ e, e.OfParameter → n.process overrides r₁ = .error e → n.process overrides r₂ = .error e) ∧
    (∀ r type key, n.process overrides r = .error (.mandatoryParameter type key) ↔
      type = o.name ∧ (o.schema.properties.find? (·.isUnset bound overrides)).map (·.name) = some key) ∧
    (∀ p r type key, n.resolve overrides = .ok p → n.transform p r ≠ .error (.mandatoryParameter type key)) ∧
    (∀ r e, n.process overrides r = .error e → e.OfParameter ∨ o.OfData e) ∧
    ∀ r₁ r₂ e, n.process overrides r₁ = .error e → n.process overrides r₂ ≠ .error e → o.OfData e := by
  intro n
  refine ⟨?_, ?_, ?_, ?_, ?_⟩
  · intro r₁ r₂ e he h
    exact (process_eq_error_iff he).2 ((process_eq_error_iff he).1 h)
  · intro r type key
    have hparameter : (Error.mandatoryParameter type key).OfParameter := trivial
    rw [process_eq_error_iff hparameter, Operator.plan_eq_mandatory_iff]
  · intro p r type key hresolve htransform
    have hprocess : n.process overrides r = .error (.mandatoryParameter type key) := by
      rw [process, hresolve]
      exact htransform
    have hparameter : (Error.mandatoryParameter type key).OfParameter := trivial
    rcases Operator.plan_eq_error ((process_eq_error_iff hparameter).1 hprocess) with hmissing | ⟨_, _, _, heq⟩
    · cases hresolve.symm.trans hmissing
    · cases heq
  · intro r e h
    exact (process_eq_error h).imp_left (o.failsBy_plan bound overrides e)
  · intro r₁ r₂ e h₁ h₂
    refine (process_eq_error h₁).resolve_left fun hplan => h₂ ?_
    exact (process_eq_error_iff (o.failsBy_plan bound overrides e hplan)).2 hplan

end Node

end RecordFlow

namespace RecordFlow.Node

open scoped Regex

/-- A coarsening of an unknown kind fails in the same way on any records, and without a kind it fails for
the kind; percentages fail for a value that is no number. -/
theorem process_errors_fuzz :
    let null : Resource := ⟨"event", none, [.ofList [("contentValue", .null)]]⟩
    let ten : Resource := ⟨"event", none, [.ofList [("contentValue", .ofNat 10)]]⟩
    let fuzz (kind : String) := ofOperator .fuzz (.ofList [("fuzzType", .string kind)])
    let e := Error.invalidParameter "Fuzz" "fuzzType" .coarsening (.string "other")
    let failure := Error.nodeFailure "Fuzz" (.percentOf .null)
    ((fuzz "other").process none null = .error e ∧ (fuzz "other").process none ten = .error e) ∧
      (ofOperator .fuzz .empty).process none ten = .error (.mandatoryParameter "Fuzz" "fuzzType") ∧
      (fuzz "percent").process none null = .error failure ∧
      (fuzz "percent").process none ten ≠ .error failure ∧ Operator.fuzz.OfData failure := by
  intro null ten fuzz e failure
  obtain ⟨hsame, -, -, -, -⟩ := process_errors .fuzz (.ofList [("fuzzType", .string "other")]) none
  obtain ⟨-, hmissing, -, -, -⟩ := process_errors .fuzz .empty none
  obtain ⟨-, -, -, -, hdata⟩ := process_errors .fuzz (.ofList [("fuzzType", .string "percent")]) none
  have hother : (fuzz "other").process none null = .error e := by rfl
  have hnull : (fuzz "percent").process none null = .error failure := by rfl
  have hten : (fuzz "percent").process none ten ≠ .error failure := by
    intro h
    have hok : ((fuzz "percent").process none ten).isOk := by decide +kernel
    rw [h] at hok
    cases hok
  refine ⟨⟨hother, hsame null ten e trivial hother⟩, (hmissing ten _ _).2 (by decide), hnull, hten, ?_⟩
  exact hdata null ten failure hnull hten

end RecordFlow.Node
