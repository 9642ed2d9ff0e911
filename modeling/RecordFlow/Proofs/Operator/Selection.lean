import RecordFlow.Proofs.Json.Relations
import RecordFlow.Proofs.Literal.Rendering
import RecordFlow.Proofs.Operator.Failure
import RecordFlow.Regex.Engine

/-! # Selected records

A filter looks at each record on its own, and keeps it or not for the value of its target.
A comparison and its negation divide the records with the target among themselves. Of the
comparisons with smaller, equal and larger values exactly one keeps a value of the same kind
as the literal, and none of them keeps a value of another kind. This needs a literal with a
finite number, since a number that is too large to be finite is compared as a null.
-/

namespace RecordFlow

namespace Comparison

def name : Comparison → String
  | equal => "==="
  | notEqual => "!=="
  | greater => ">"
  | greaterOrEqual => ">="
  | less => "<"
  | lessOrEqual => "<="
  | includes => "includes"
  | notIncludes => "not includes"
  | matching => "matches"

theorem ofName?_name (c : Comparison) : ofName? c.name = some c := by
  cases c <;> rfl

/-- The comparison that keeps what another one drops. -/
def negation? : Comparison → Option Comparison
  | equal => some notEqual
  | notEqual => some equal
  | includes => some notIncludes
  | notIncludes => some includes
  | _ => none

def ofOrdering : Ordering → Comparison
  | .lt => less
  | .eq => equal
  | .gt => greater

theorem exists_ofOrdering (h : c ∈ [less, equal, greater]) : ∃ o, c = ofOrdering o := by
  simp only [List.mem_cons, List.not_mem_nil, or_false] at h
  rcases h with rfl | rfl | rfl
  · exact ⟨.lt, rfl⟩
  · exact ⟨.eq, rfl⟩
  · exact ⟨.gt, rfl⟩

theorem ofOrdering_mem (o : Ordering) : ofOrdering o ∈ [less, equal, greater] := by
  cases o <;> decide

/-- Exactly one of the comparisons with smaller, equal and larger values keeps something, and those with
two of these are made up of them. -/
structure Trichotomous (kept : Comparison → Prop) : Prop where
  existsUnique : ∃! c, c ∈ [less, equal, greater] ∧ kept c
  lessOrEqual_iff : kept lessOrEqual ↔ kept less ∨ kept equal
  greaterOrEqual_iff : kept greaterOrEqual ↔ kept greater ∨ kept equal

def relational : List Comparison := [less, lessOrEqual, equal, greaterOrEqual, greater]

theorem ne_matching_of_mem_relational : ∀ c ∈ relational, c ≠ matching := by decide

variable [Engine]

variable {c d : Comparison} {value : Json} {literal : Literal}

/-- What a comparison asks of a value. All literals are compared by their JSON forms, and only patterns
are matched. -/
def Meets : Comparison → Json → Literal → Prop
  | equal, value, literal => value.strictEquals literal.toJson
  | notEqual, value, literal => ¬ value.strictEquals literal.toJson
  | greater, value, literal => literal.toJson.Below value
  | greaterOrEqual, value, literal => literal.toJson.Below value ∨ value.Level literal.toJson
  | less, value, literal => value.Below literal.toJson
  | lessOrEqual, value, literal => value.Below literal.toJson ∨ value.Level literal.toJson
  | includes, value, literal => value.Includes literal.toJson
  | notIncludes, value, literal => ¬ value.Includes literal.toJson
  | matching, value, literal => ∃ s p, value = .string s ∧ literal = .scalar (.pattern p) ∧ p.isMatch s

theorem matchesLiteral_iff : matchesLiteral value literal ↔ matching.Meets value literal := by
  constructor
  · intro h
    unfold matchesLiteral at h
    split at h
    · next s p => exact ⟨s, p, rfl, rfl, h⟩
    · cases h
  · rintro ⟨s, p, rfl, rfl, h⟩
    exact h

theorem holds_iff : c.holds value literal ↔ c.Meets value literal := by
  cases c with
  | equal => exact Iff.rfl
  | notEqual => simp [holds, Meets]
  | greater => exact beq_iff_eq.trans Json.compareValues_eq_gt_iff
  | less => exact beq_iff_eq.trans Json.compareValues_eq_lt_iff
  | greaterOrEqual =>
    rw [Meets, ← Json.compareValues_eq_gt_iff, ← Json.compareValues_eq_eq_iff]
    simp [holds]
  | lessOrEqual =>
    rw [Meets, ← Json.compareValues_eq_lt_iff, ← Json.compareValues_eq_eq_iff]
    simp [holds]
  | includes => exact Json.includes_iff
  | notIncludes => simp [holds, Meets, ← Json.includes_iff]
  | matching => exact matchesLiteral_iff

theorem holds_negation (h : c.negation? = some d) (value : Json) (literal : Literal) :
    d.holds value literal = !c.holds value literal := by
  cases c <;> cases h <;> simp [holds]

theorem holds_ofOrdering_iff (h : (value.compareValues literal.toJson).isSome) {o : Ordering} :
    (ofOrdering o).holds value literal ↔ value.compareValues literal.toJson = some o := by
  cases o with
  | lt => exact beq_iff_eq
  | eq => exact (Json.compareValues_eq_iff h).symm
  | gt => exact beq_iff_eq

theorem trichotomous_holds (hkind : value.kind = literal.toJson.kind) (hordered : value.kind.isOrdered) :
    Trichotomous (·.holds value literal) := by
  have hsome := Json.isSome_compareValues_iff.2 ⟨hkind, hordered⟩
  have hequal := Json.compareValues_eq_iff hsome
  obtain ⟨o, ho⟩ := Option.isSome_iff_exists.1 hsome
  constructor
  · refine ⟨ofOrdering o, ⟨ofOrdering_mem o, (holds_ofOrdering_iff hsome).2 ho⟩, ?_⟩
    rintro c ⟨hc, hkept⟩
    obtain ⟨o', rfl⟩ := exists_ofOrdering hc
    have heq := ho.symm.trans ((holds_ofOrdering_iff hsome).1 hkept)
    rw [Option.some_inj.1 heq]
  · simp [holds, ← hequal]
  · simp [holds, ← hequal]

theorem not_holds_of_kind_ne (hkind : value.kind ≠ literal.toJson.kind) :
    ∀ c ∈ relational, ¬ c.holds value literal := by
  have hnone : value.compareValues literal.toJson = none := by
    rw [← Option.not_isSome_iff_eq_none]
    exact fun hsome => hkind (Json.isSome_compareValues_iff.1 hsome).1
  have hequal : ¬ value.strictEquals literal.toJson := fun h => hkind (Json.kind_eq_of_strictEquals h)
  intro c hc
  simp only [relational, List.mem_cons, List.not_mem_nil, or_false] at hc
  rcases hc with rfl | rfl | rfl | rfl | rfl <;> simp [holds, hnone, hequal]

/-- A null has no order, and equals nothing but a null. -/
theorem holds_iff_of_toJson_eq_null (h : literal.toJson = .null) :
    ∀ c ∈ relational, c.holds value literal ↔ c = equal ∧ value = .null := by
  have hnone : value.compareValues .null = none := by cases value <;> rfl
  have hequal : value.strictEquals .null ↔ value = .null := by
    cases value <;> simp [Json.strictEquals, Json.same]
  intro c hc
  simp only [relational, List.mem_cons, List.not_mem_nil, or_false] at hc
  rcases hc with rfl | rfl | rfl | rfl | rfl <;> simp [holds, h, hnone, hequal]

end Comparison

def LiteralKind.toJsonKind : LiteralKind → Json.Kind
  | string => .string
  | number => .number
  | boolean => .boolean
  | pattern => .string
  | array => .array

namespace Json

theorem ofBinary64_of_not_isFinite {x : Binary64} (h : ¬ x.isFinite) : ofBinary64 x = null := dif_neg h

theorem kind_ofBinary64 {x : Binary64} (h : x.isFinite) : (ofBinary64 x).kind = .number := by
  rw [ofBinary64, dif_pos h]
  rfl

theorem kind_ofInt {n : Int} (h : FitsWord n) : (ofInt n).kind = .number := by
  rw [ofInt, dif_pos h]
  rfl

end Json

namespace Scalar

theorem kind_numberToJson {x : Binary64} (h : x.isFinite) : (numberToJson x).kind = .number := by
  unfold numberToJson
  split
  · next n _ =>
    split
    · next hn =>
      refine Json.kind_ofInt ⟨?_, ?_⟩ <;> omega
    · exact Json.kind_ofBinary64 h
  · exact Json.kind_ofBinary64 h

theorem numberToJson_of_not_isFinite {x : Binary64} (h : ¬ x.isFinite) : numberToJson x = .null := by
  have hnone : x.toInt? = none := if_neg fun hint => h hint.1
  rw [numberToJson, hnone]
  exact Json.ofBinary64_of_not_isFinite h

variable [Engine]

variable {s : Scalar}

/-- A literal stands among the values of its kind unless it is a number that is not finite. -/
theorem kind_toJson (h : ∀ x ∈ s.numbers, x.isFinite) : s.toJson.kind = s.kind.toJsonKind := by
  cases s with
  | number x => exact kind_numberToJson (h x (List.mem_singleton_self x))
  | string | boolean | pattern => rfl

theorem toJson_eq_null (h : ¬ ∀ x ∈ s.numbers, x.isFinite) : s.toJson = .null := by
  cases s with
  | number x => exact numberToJson_of_not_isFinite fun hx => h (List.forall_mem_singleton.2 hx)
  | string | boolean | pattern => exact absurd (List.forall_mem_nil _) h

theorem isOrdered_toJsonKind (s : Scalar) : s.kind.toJsonKind.isOrdered := by
  cases s <;> rfl

end Scalar

namespace Filter

variable [Engine]

variable {f : Filter} {record : Record}

/-- The record has the target, with a value that compares as asked. -/
def Selects (f : Filter) (record : Record) : Prop :=
  ∃ value, record.get? f.target = some value ∧ f.comparison.Meets value f.literal

theorem keeps_of_some {value : Json} (h : record.get? f.target = some value) :
    f.keeps record = f.comparison.holds value f.literal := by
  rw [keeps, h]

theorem keeps_of_none (h : record.get? f.target = none) : f.keeps record = false := by
  rw [keeps, h]

theorem keeps_iff : f.keeps record ↔ f.Selects record := by
  cases hget : record.get? f.target with
  | none => simp [keeps_of_none hget, Selects, hget]
  | some value => simp [keeps_of_some hget, Selects, hget, Comparison.holds_iff]

theorem keeps_negation {c : Comparison} (h : f.comparison.negation? = some c) (record : Record) :
    { f with comparison := c : Filter }.keeps record = (record.contains f.target && !f.keeps record) := by
  cases hget : record.get? f.target with
  | none => simp [keeps, Dict.contains, hget]
  | some value => simp [keeps, Dict.contains, hget, Comparison.holds_negation h]

theorem contains_of_keeps (h : f.keeps record) : record.contains f.target := by
  obtain ⟨value, hvalue, -⟩ := keeps_iff.1 h
  exact Dict.contains_of_some hvalue

theorem disjoint_apply {c : Comparison} (h : f.comparison.negation? = some c) (records : List Record) :
    (f.apply records).Disjoint ({ f with comparison := c : Filter }.apply records) := by
  intro record hkept hdropped
  have hkept : f.keeps record := (List.mem_filter.1 hkept).2
  have hdropped := (List.mem_filter.1 hdropped).2
  rw [keeps_negation h, hkept] at hdropped
  simp at hdropped

theorem perm_apply {c : Comparison} (h : f.comparison.negation? = some c) (r : Resource) :
    (f.apply r.records ++ { f with comparison := c : Filter }.apply r.records).Perm (r.recordsWith f.target) := by
  have hkept : (r.recordsWith f.target).filter f.keeps = f.apply r.records := by
    rw [Resource.recordsWith, List.filter_filter, apply]
    refine List.filter_congr fun record _ => ?_
    cases hkeeps : f.keeps record with
    | false => rfl
    | true => exact contains_of_keeps hkeeps
  have hdropped : (r.recordsWith f.target).filter (!f.keeps ·) =
      { f with comparison := c : Filter }.apply r.records := by
    rw [Resource.recordsWith, List.filter_filter, apply]
    refine List.filter_congr fun record _ => ?_
    rw [keeps_negation h, Bool.and_comm]
  rw [← hkept, ← hdropped]
  exact List.filter_append_perm ..

def Accepted (f : Filter) : Prop := f.comparison = .matching → f.literal.asPattern?.isSome

theorem accepted_of_ne (h : f.comparison ≠ .matching) : f.Accepted := fun hmatching => absurd hmatching h

def toParameters (f : Filter) : Parameters :=
  .ofList [("operation", .string f.comparison.name), ("target", .string f.target), ("targetValue", f.literal)]

variable {p : Resolved}

theorem ofParameters_eq_ok_iff : ofParameters p = .ok f ↔
    (∃ name, p.string "operation" = .ok name ∧ Comparison.ofName? name = some f.comparison) ∧
      p.string "target" = .ok f.target ∧ p.value "targetValue" = .ok f.literal ∧ f.Accepted := by
  constructor
  · intro h
    obtain ⟨comparison, hcomparison, h⟩ := bind_eq_ok_iff.1 h
    obtain ⟨target, htarget, h⟩ := bind_eq_ok_iff.1 h
    obtain ⟨literal, hliteral, h⟩ := bind_eq_ok_iff.1 h
    split at h
    · cases h
    · next hpattern =>
      cases h
      refine ⟨Resolved.choice_eq_ok_iff.1 hcomparison, htarget, hliteral, fun hmatching => ?_⟩
      exact Option.isSome_iff_ne_none.2 fun hnone => hpattern ⟨hmatching, Option.isNone_iff_eq_none.2 hnone⟩
  · rintro ⟨hcomparison, htarget, hliteral, haccepted⟩
    refine bind_eq_ok_iff.2 ⟨f.comparison, Resolved.choice_eq_ok_iff.2 hcomparison, ?_⟩
    refine bind_eq_ok_iff.2 ⟨f.target, htarget, ?_⟩
    refine bind_eq_ok_iff.2 ⟨f.literal, hliteral, ?_⟩
    rw [if_neg]
    · rfl
    · rintro ⟨hmatching, hnone⟩
      have hsome := haccepted hmatching
      rw [Option.isNone_iff_eq_none.1 hnone] at hsome
      cases hsome

theorem get?_toParameters (f : Filter) (name : String) : f.toParameters.get? name = List.lookup name
    [("operation", .string f.comparison.name), ("target", .string f.target), ("targetValue", f.literal)] :=
  Dict.get?_ofList_of_nodup (by simp) name

theorem ofSchema_toParameters (f : Filter) :
    Resolved.ofSchema Operator.filter.name Operator.filter.schema f.toParameters none =
      .ok ⟨Operator.filter.name, f.toParameters⟩ :=
  Resolved.ofSchema_ofList rfl _

end Filter

namespace Operator

variable [Engine]

variable {bound : Parameters} {overrides : Option Parameters} {f : Filter}

theorem plan_filter_iff : filter.plan bound overrides = .ok (.filter f) ↔
    ∃ p, Resolved.ofSchema filter.name filter.schema bound overrides = .ok p ∧ Filter.ofParameters p = .ok f :=
  plan_eq_ok_iff (fun _ => rfl) fun _ => Action.filter.inj

theorem plan_filter_toParameters_iff :
    filter.plan f.toParameters none = .ok (.filter f) ↔ f.Accepted := by
  constructor
  · intro h
    obtain ⟨p, -, hf⟩ := plan_filter_iff.1 h
    exact (Filter.ofParameters_eq_ok_iff.1 hf).2.2.2
  · intro h
    refine plan_filter_iff.2 ⟨_, f.ofSchema_toParameters, Filter.ofParameters_eq_ok_iff.2 ⟨?_, ?_, ?_, h⟩⟩
    · refine ⟨f.comparison.name, ?_, f.comparison.ofName?_name⟩
      exact Resolved.string_eq_ok_iff.2 (f.get?_toParameters "operation")
    · exact Resolved.string_eq_ok_iff.2 (f.get?_toParameters "target")
    · exact Resolved.value_eq_ok_iff.2 (f.get?_toParameters "targetValue")

end Operator

namespace Node

variable [Engine]

variable {bound : Parameters} {overrides : Option Parameters} {f : Filter}

theorem process_of_plan_filter (h : Operator.filter.plan bound overrides = .ok (.filter f)) (r : Resource) :
    (ofOperator .filter bound).process overrides r = .ok { r with records := f.apply r.records } := by
  rw [process_ofOperator, h]
  rfl

/-- A filter may be asked for unless it matches with a literal that is no pattern. It succeeds and keeps, in
their order, the records whose own value of the target compares as asked. The records that it keeps and those
that the negated comparison keeps are disjoint, and together they are the records with the target. -/
theorem process_filter (f : Filter) :
    (Operator.filter.plan f.toParameters none = .ok (.filter f) ↔ f.Accepted) ∧
    ∀ bound overrides, Operator.filter.plan bound overrides = .ok (.filter f) → ∀ r, ∃ records,
      (ofOperator .filter bound).process overrides r = .ok { r with records } ∧
      records = r.records.filter f.keeps ∧ (∀ record, f.keeps record ↔ f.Selects record) ∧
      ∀ c bound' overrides', f.comparison.negation? = some c →
        Operator.filter.plan bound' overrides' = .ok (.filter { f with comparison := c }) → ∃ records',
        (ofOperator .filter bound').process overrides' r = .ok { r with records := records' } ∧
        records.Disjoint records' ∧ (records ++ records').Perm (r.recordsWith f.target) := by
  constructor
  · exact Operator.plan_filter_toParameters_iff
  intro bound overrides hplan r
  refine ⟨f.apply r.records, process_of_plan_filter hplan r, rfl, fun record => Filter.keeps_iff, ?_⟩
  intro c bound' overrides' hnegation hplan'
  refine ⟨_, process_of_plan_filter hplan' r, ?_, ?_⟩
  · exact Filter.disjoint_apply hnegation r.records
  · exact Filter.perm_apply hnegation r

end Node

end RecordFlow

namespace RecordFlow.Node

section

open scoped Regex

/-- A string with a piece, an array with a number, an array without it, and a record without the target. -/
theorem process_filter_includes :
    let f : Filter := ⟨.includes, "a", .number (.ofNat 2)⟩
    let negated : Filter := { f with comparison := .notIncludes }
    let record (value : Json) : Record := .ofList [("a", value)]
    let r : Resource := ⟨"event", none, [record (.string "2"), record (.array [.null, .ofBinary64 (.ofNat 2)]),
      record (.array [.string "2"]), .ofList [("b", .ofNat 2)]]⟩
    (Operator.filter.plan f.toParameters none = .ok (.filter f) ∧
      Operator.filter.plan negated.toParameters none = .ok (.filter negated) ∧
      f.comparison.negation? = some .notIncludes) ∧
    ∃ records records', (ofOperator .filter f.toParameters).process none r = .ok { r with records } ∧
      (ofOperator .filter negated.toParameters).process none r = .ok { r with records := records' } ∧
      (records ++ records').Perm (r.recordsWith "a") ∧ records.length = 1 ∧ (r.recordsWith "a").length = 3 := by
  intro f negated record r
  obtain ⟨hiff, hkept⟩ := process_filter f
  obtain ⟨hiff', -⟩ := process_filter negated
  have hplan := hiff.2 (Filter.accepted_of_ne Comparison.noConfusion)
  have hplan' := hiff'.2 (Filter.accepted_of_ne Comparison.noConfusion)
  obtain ⟨records, hprocess, hrecords, -, hnegated⟩ := hkept _ none hplan r
  obtain ⟨records', hprocess', -, hperm⟩ := hnegated .notIncludes _ none rfl hplan'
  refine ⟨⟨hplan, hplan', rfl⟩, records, records', hprocess, hprocess', hperm, ?_, by decide +kernel⟩
  rw [hrecords]
  decide +kernel

end

section

variable [Engine]

/-- Of the comparisons with smaller, equal and larger values exactly one keeps a record whose value has the
kind of the literal, those with two of these keep what either keeps, and no such comparison keeps a record with
a value of another kind. This is so for every literal but a number that is not finite. Such a number keeps no
record by any of these comparisons, except that the records with a null are kept as equal. -/
theorem process_ordered (target : String) (s : Scalar) :
    let f (c : Comparison) : Filter := ⟨c, target, .scalar s⟩
    (∀ c ∈ Comparison.relational, Operator.filter.plan (f c).toParameters none = .ok (.filter (f c))) ∧
    (∀ c bound overrides, Operator.filter.plan bound overrides = .ok (.filter (f c)) → ∀ r,
      (ofOperator .filter bound).process overrides r = .ok { r with records := r.records.filter (f c).keeps }) ∧
    ∀ record value, record.get? target = some value →
      ((∀ x ∈ s.numbers, x.isFinite) →
        (value.kind = s.kind.toJsonKind → Comparison.Trichotomous fun c => (f c).keeps record) ∧
        (value.kind ≠ s.kind.toJsonKind → ∀ c ∈ Comparison.relational, ¬ (f c).keeps record)) ∧
      ((¬ ∀ x ∈ s.numbers, x.isFinite) →
        ∀ c ∈ Comparison.relational, (f c).keeps record ↔ c = .equal ∧ value = .null) := by
  intro f
  refine ⟨?_, ?_, ?_⟩
  · intro c hc
    have hne : c ≠ .matching := Comparison.ne_matching_of_mem_relational c hc
    exact Operator.plan_filter_toParameters_iff.2 (Filter.accepted_of_ne hne)
  · intro c bound overrides hplan r
    exact process_of_plan_filter hplan r
  · intro record value hvalue
    have hkeeps (c : Comparison) : (f c).keeps record = c.holds value (.scalar s) := Filter.keeps_of_some hvalue
    simp only [hkeeps]
    constructor
    · intro hfinite
      have hkind : (Literal.scalar s).toJson.kind = s.kind.toJsonKind := Scalar.kind_toJson hfinite
      rw [← hkind]
      constructor
      · intro h
        refine Comparison.trichotomous_holds h ?_
        rw [h, hkind]
        exact s.isOrdered_toJsonKind
      · exact Comparison.not_holds_of_kind_ne
    · intro hinfinite
      exact Comparison.holds_iff_of_toJson_eq_null (Scalar.toJson_eq_null hinfinite)

end

open scoped Regex

/-- Compared with two, a five is in order and a null is not. Compared with a number that is too large to be
finite, the five is not smaller, and the null is equal. -/
theorem process_ordered_overflow :
    let two : Scalar := .number (.ofNat 2)
    let large : Scalar := .number (.signed false .infinity)
    let f (s : Scalar) (c : Comparison) : Filter := ⟨c, "a", .scalar s⟩
    let five : Record := .ofList [("a", .ofNat 5)]
    let null : Record := .ofList [("a", .null)]
    let r : Resource := ⟨"event", none, [five, null]⟩
    ((∀ x ∈ two.numbers, x.isFinite) ∧ (Json.ofNat 5).kind = two.kind.toJsonKind ∧
      Comparison.Trichotomous fun c => (f two c).keeps five) ∧
    (Json.null.kind ≠ two.kind.toJsonKind ∧ ∀ c ∈ Comparison.relational, ¬ (f two c).keeps null) ∧
    (Parameters.ofText "\x7boperation: '<', target: 'a', targetValue: 1e400\x7d" =
        .ok (f large .less).toParameters ∧
      Operator.filter.plan (f large .less).toParameters none = .ok (.filter (f large .less)) ∧
      (ofOperator .filter (f large .less).toParameters).process none r =
        .ok { r with records := r.records.filter (f large .less).keeps }) ∧
    (¬ ∀ x ∈ large.numbers, x.isFinite) ∧ ¬ (f large .less).keeps five ∧ (f large .equal).keeps null := by
  intro two large f five null r
  obtain ⟨-, -, htwo⟩ := process_ordered "a" two
  obtain ⟨hplan, hprocess, hlarge⟩ := process_ordered "a" large
  have hfinite : ∀ x ∈ two.numbers, x.isFinite := by decide +kernel
  have hinfinite : ¬ ∀ x ∈ large.numbers, x.isFinite := by decide +kernel
  have hkind : (Json.ofNat 5).kind = two.kind.toJsonKind := by decide +kernel
  have hother : Json.null.kind ≠ two.kind.toJsonKind := by decide
  have hless := hplan .less (by decide)
  refine ⟨⟨hfinite, hkind, ?_⟩, ⟨hother, ?_⟩, ⟨?_, hless, hprocess .less _ none hless r⟩, hinfinite, ?_, ?_⟩
  · exact ((htwo five (.ofNat 5) rfl).1 hfinite).1 hkind
  · exact ((htwo null .null rfl).1 hfinite).2 hother
  · decide +kernel
  · intro hkept
    exact nomatch (((hlarge five (.ofNat 5) rfl).2 hinfinite .less (by decide)).1 hkept).1
  · exact ((hlarge null .null rfl).2 hinfinite .equal (by decide)).2 ⟨rfl, rfl⟩

end RecordFlow.Node
