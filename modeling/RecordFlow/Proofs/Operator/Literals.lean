import RecordFlow.Proofs.Operator.Numbers
import RecordFlow.Proofs.Operator.Selection
import RecordFlow.Regex.Engine

/-! # Literals among the values of records

A number literal becomes a JSON number with the same value. Whole numbers below
`2 ^ 63` in magnitude become integers, among them the zero of either sign, and the
others stay floating point numbers. What a spoof writes is therefore what a filter
compares with, and numbers of records are found by their values.
-/

namespace RecordFlow

open Binary64

namespace Scalar

variable {x : Binary64}

/-- A whole number that is a signed 64-bit word and not the least one. -/
def IsShort (x : Binary64) (v : Int) : Prop := x.value = v ∧ |x.value| < 2 ^ 63

theorem isShort_iff {v : Int} : IsShort x v ↔ x.value = v ∧ v.natAbs < 0x8000000000000000 := by
  refine and_congr_right fun h => ?_
  rw [h, ← Int.cast_abs, ← Nat.cast_natAbs]
  exact_mod_cast Iff.rfl

theorem fitsWord_of_natAbs_lt {v : Int} (h : v.natAbs < 0x8000000000000000) : FitsWord v := by
  constructor <;> omega

theorem numberToJson_of_isShort {v : Int} (hx : x.isFinite) (h : IsShort x v) :
    ∃ hword, numberToJson x = .number (.integer v hword) := by
  obtain ⟨hvalue, hsmall⟩ := isShort_iff.1 h
  refine ⟨fitsWord_of_natAbs_lt hsmall, ?_⟩
  rw [numberToJson, toInt?_eq_some_iff.2 ⟨hx, hvalue⟩]
  simp only [if_pos hsmall]
  rw [Json.ofInt, dif_pos]

theorem numberToJson_of_not_isShort (hx : x.isFinite) (h : ¬ ∃ v, IsShort x v) :
    numberToJson x = .number (.float x hx) := by
  have hfloat : Json.ofBinary64 x = .number (.float x hx) := dif_pos hx
  unfold numberToJson
  split
  · next v hv =>
    rw [if_neg, hfloat]
    exact fun hsmall => h ⟨v, isShort_iff.2 ⟨(toInt?_eq_some_iff.1 hv).2, hsmall⟩⟩
  · exact hfloat

/-- The JSON form of a finite number is a number of the same value, and an integer if and only if the number
is whole and below `2 ^ 63` in magnitude. -/
theorem exists_numberToJson (hx : x.isFinite) :
    ∃ j, numberToJson x = .number j ∧ j.toBinary64.value = x.value ∧
      ∀ v : Int, (∃ hword, j = .integer v hword) ↔ IsShort x v := by
  by_cases hshort : ∃ v, IsShort x v
  · obtain ⟨v, hv⟩ := hshort
    obtain ⟨hword, hjson⟩ := numberToJson_of_isShort hx hv
    refine ⟨_, hjson, (value_ofInt (exact_of_value_eq hx hv.1)).trans hv.1.symm, fun w => ?_⟩
    constructor
    · rintro ⟨hw, heq⟩
      cases heq
      exact hv
    · rintro hw
      obtain rfl : v = w := Int.cast_injective (hv.1.symm.trans hw.1)
      exact ⟨hword, rfl⟩
  · refine ⟨_, numberToJson_of_not_isShort hx hshort, rfl, fun v => ⟨?_, fun hv => absurd ⟨v, hv⟩ hshort⟩⟩
    rintro ⟨hword, heq⟩
    cases heq

theorem strictEquals_numberToJson_iff (hx : x.isFinite) (value : Json) :
    value.strictEquals (numberToJson x) ↔ ∃ j, value = .number j ∧ j.toBinary64.value = x.value := by
  obtain ⟨j, hjson, hvalue, -⟩ := exists_numberToJson hx
  rw [hjson, ← hvalue]
  cases value with
  | number i =>
    have hequals : (Json.number i).strictEquals (.number j) = i.toBinary64.equals j.toBinary64 := rfl
    rw [hequals, equals_iff_value_eq i.toBinary64_ne_nan j.toBinary64_ne_nan]
    simp
  | null | bool | string | array | object => simp [Json.strictEquals, Json.same]

end Scalar

variable [Engine]

namespace Operator

variable {o : Operator} {bound : Parameters} {overrides : Option Parameters}

/-- The parameters of a call resolve, and some of them to given values. -/
def CalledWith (o : Operator) (bound : Parameters) (overrides : Option Parameters)
    (values : List (String × Literal)) : Prop :=
  ∃ p, Resolved.ofSchema o.name o.schema bound overrides = .ok p ∧ ∀ e ∈ values, p.get? e.1 = some e.2

theorem calledWith_ofList (o : Operator) (values : List (String × Literal))
    (hnames : values.map Prod.fst = o.schema.names) (hnodup : (values.map Prod.fst).Nodup) :
    o.CalledWith (.ofList values) none values := by
  refine ⟨_, Resolved.ofSchema_ofList hnames _, fun e he => ?_⟩
  exact (Dict.get?_ofList_of_nodup hnodup e.1).trans ((lookup_eq_some_iff_mem hnodup).2 he)

def equalTo (target : String) (literal : Literal) : List (String × Literal) :=
  [("operation", .string "==="), ("target", .string target), ("targetValue", literal)]

def writing (key : String) (value : Literal) : List (String × Literal) := [("key", .string key), ("value", value)]

theorem plan_of_calledWith_equalTo {target : String} {literal : Literal}
    (h : filter.CalledWith bound overrides (equalTo target literal)) :
    filter.plan bound overrides = .ok (.filter ⟨.equal, target, literal⟩) := by
  obtain ⟨p, hresolve, hvalues⟩ := h
  simp only [equalTo, List.forall_mem_cons] at hvalues
  obtain ⟨hoperation, htarget, hliteral, -⟩ := hvalues
  refine plan_filter_iff.2 ⟨p, hresolve, Filter.ofParameters_eq_ok_iff.2 ⟨?_, ?_, ?_, ?_⟩⟩
  · exact ⟨"===", Resolved.string_eq_ok_iff.2 hoperation, rfl⟩
  · exact Resolved.string_eq_ok_iff.2 htarget
  · exact Resolved.value_eq_ok_iff.2 hliteral
  · exact Filter.accepted_of_ne Comparison.noConfusion

theorem plan_of_calledWith_writing {key : String} {value : Literal}
    (h : spoof.CalledWith bound overrides (writing key value)) :
    spoof.plan bound overrides = .ok (.spoof key value) := by
  obtain ⟨p, hresolve, hvalues⟩ := h
  simp only [writing, List.forall_mem_cons] at hvalues
  obtain ⟨hkey, hvalue, -⟩ := hvalues
  refine bind_eq_ok_iff.2 ⟨p, hresolve, ?_⟩
  refine bind_eq_ok_iff.2 ⟨key, Resolved.string_eq_ok_iff.2 hkey, ?_⟩
  exact bind_eq_ok_iff.2 ⟨value, Resolved.value_eq_ok_iff.2 hvalue, rfl⟩

end Operator

namespace Filter

theorem keeps_equal_iff {target : String} {literal : Literal} {record : Record} :
    { comparison := .equal, target, literal : Filter }.keeps record ↔
      ∃ value, record.get? target = some value ∧ value.strictEquals literal.toJson :=
  keeps_iff

theorem keeps_equal_number_iff {target : String} {x : Binary64} (hx : x.isFinite) {record : Record} :
    { comparison := .equal, target, literal := .number x : Filter }.keeps record ↔
      ∃ j, record.get? target = some (.number j) ∧ j.toBinary64.value = x.value := by
  rw [keeps_equal_iff]
  have hequals := Scalar.strictEquals_numberToJson_iff hx
  constructor
  · rintro ⟨value, hget, hvalue⟩
    obtain ⟨j, rfl, hj⟩ := (hequals value).1 hvalue
    exact ⟨j, hget, hj⟩
  · rintro ⟨j, hget, hj⟩
    exact ⟨.number j, hget, (hequals _).2 ⟨j, rfl, hj⟩⟩

theorem keeps_insert (key : String) (literal : Literal) (record : Record) :
    { comparison := .equal, target := key, literal : Filter }.keeps (record.insert key literal.toJson) := by
  refine keeps_equal_iff.2 ⟨literal.toJson, ?_, Json.equivalence_strictEquals.refl _⟩
  rw [Dict.get?_insert, if_pos rfl]

end Filter

namespace Node

variable {bound : Parameters} {overrides : Option Parameters}

theorem process_of_calledWith_equalTo {target : String} {literal : Literal}
    (h : Operator.filter.CalledWith bound overrides (Operator.equalTo target literal)) (r : Resource) :
    (ofOperator .filter bound).process overrides r =
      .ok { r with records := r.records.filter (Filter.keeps ⟨.equal, target, literal⟩) } :=
  process_of_plan_filter (Operator.plan_of_calledWith_equalTo h) r

theorem process_of_calledWith_writing {key : String} {value : Literal}
    (h : Operator.spoof.CalledWith bound overrides (Operator.writing key value)) (r : Resource) :
    (ofOperator .spoof bound).process overrides r =
      .ok { r with records := r.records.map (·.insert key value.toJson) } := by
  rw [process_ofOperator, Operator.plan_of_calledWith_writing h]
  rfl

/-- The JSON form of a finite number has the value of the number, as an integer if and only if the number is
whole and below `2 ^ 63` in magnitude. A filter for a number therefore keeps the records whose target is a
number of that value, and a filter for any literal keeps all records into which a spoof has written it. -/
theorem process_literals :
    (∀ x : Binary64, x.isFinite → ∃ j, Scalar.numberToJson x = .number j ∧ j.toBinary64.isFinite ∧
      j.toBinary64.value = x.value ∧
      ∀ v : Int, (∃ hword, j = .integer v hword) ↔ x.value = v ∧ |x.value| < 2 ^ 63) ∧
    (∀ target x, x.isFinite → ∀ bound overrides,
      Operator.filter.CalledWith bound overrides (Operator.equalTo target (.number x)) → ∀ r,
      ∃ keeps : Record → Bool,
        (ofOperator .filter bound).process overrides r = .ok { r with records := r.records.filter keeps } ∧
        ∀ record, keeps record ↔
          ∃ j, record.get? target = some (.number j) ∧ j.toBinary64.value = x.value) ∧
    ∀ key value bound overrides bound' overrides',
      Operator.spoof.CalledWith bound overrides (Operator.writing key value) →
      Operator.filter.CalledWith bound' overrides' (Operator.equalTo key value) → ∀ r,
      ∃ r', (ofOperator .spoof bound).process overrides r = .ok r' ∧
        r'.records = r.records.map (·.insert key value.toJson) ∧
        (ofOperator .filter bound').process overrides' r' = .ok r' := by
  refine ⟨?_, ?_, ?_⟩
  · intro x hx
    obtain ⟨j, hjson, hvalue, hinteger⟩ := Scalar.exists_numberToJson hx
    exact ⟨j, hjson, j.isFinite_toBinary64, hvalue, hinteger⟩
  · intro target x hx bound overrides hcall r
    exact ⟨_, process_of_calledWith_equalTo hcall r, fun record => Filter.keeps_equal_number_iff hx⟩
  · intro key value bound overrides bound' overrides' hspoof hfilter r
    refine ⟨_, process_of_calledWith_writing hspoof r, rfl, ?_⟩
    have hall : (r.records.map (·.insert key value.toJson)).filter (Filter.keeps ⟨.equal, key, value⟩) =
        r.records.map (·.insert key value.toJson) := by
      rw [List.filter_eq_self, List.forall_mem_map]
      exact fun record _ => Filter.keeps_insert key value record
    rw [process_of_calledWith_equalTo hfilter]
    show Except.ok { r with records := _ } = _
    rw [hall]

end Node

end RecordFlow

namespace RecordFlow.Node

open Binary64

open scoped Regex

/-- The negative zero becomes an integer and is found as a zero of either sign, though not as a string, `2 ^ 63`
becomes no integer, and a number beyond the range is found where it has been written. -/
theorem process_literals_limits :
    let minusZero : Binary64 := .signed true .zero
    let power : Binary64 := .ofInt 0x8000000000000000
    let large : Binary64 := .signed false .infinity
    let record (value : Json) : Record := .ofList [("a", value)]
    let r : Resource := ⟨"event", none, [record (.ofNat 0), record (.string "0"), record (.ofBinary64 minusZero)]⟩
    let filter (x : Binary64) : Node := ofOperator .filter (.ofList (Operator.equalTo "a" (.number x)))
    let spoof (x : Binary64) : Node := ofOperator .spoof (.ofList (Operator.writing "a" (.number x)))
    (minusZero.isFinite ∧ ∃ hword, Scalar.numberToJson minusZero = .number (.integer 0 hword)) ∧
    (power.isFinite ∧ ¬ ∃ v hword, Scalar.numberToJson power = .number (.integer v hword)) ∧
    (∃ keeps, (filter minusZero).process none r = .ok { r with records := r.records.filter keeps } ∧
      keeps (record (.ofNat 0)) ∧ ¬ keeps (record (.string "0")) ∧ keeps (record (.ofBinary64 minusZero))) ∧
    ∃ r', (spoof large).process none r = .ok r' ∧ r'.records.length = 3 ∧
      (filter large).process none r' = .ok r' := by
  intro minusZero power large record r filter spoof
  obtain ⟨hjson, hfilter, hspoof⟩ := process_literals
  have hcallFilter (x : Binary64) := Operator.calledWith_ofList .filter
    (Operator.equalTo "a" (.number x)) rfl (by simp [Operator.equalTo])
  have hcallSpoof (x : Binary64) := Operator.calledWith_ofList .spoof
    (Operator.writing "a" (.number x)) rfl (by simp [Operator.writing])
  have hminus : minusZero.isFinite := rfl
  have hvalue : minusZero.value = 0 := (value_eq_zero_iff Binary64.noConfusion).2 rfl
  have hzero : (ofInt 0).value = minusZero.value := by
    rw [hvalue, value_ofInt (exact_of_le (Nat.zero_le _)), Int.cast_zero]
  have hfinite : power.isFinite := isFinite_ofInt (k := 63) (by decide) (by decide)
  have hpower : power.value = 2 ^ 63 := by
    have hexact : Exact (0x8000000000000000 : Int).natAbs :=
      exact_mul_two_pow (m := 1) (s := 63) (by decide) (by decide)
    rw [value_ofInt hexact]
    norm_num
  refine ⟨⟨hminus, ?_⟩, ⟨hfinite, ?_⟩, ?_, ?_⟩
  · obtain ⟨j, hj, -, -, hinteger⟩ := hjson minusZero hminus
    obtain ⟨hword, rfl⟩ := (hinteger 0).2 (by simp [hvalue])
    exact ⟨hword, hj⟩
  · obtain ⟨j, hj, -, -, hinteger⟩ := hjson power hfinite
    rintro ⟨v, hword, hv⟩
    have hsmall := ((hinteger v).1 ⟨hword, Json.number.inj (hj.symm.trans hv)⟩).2
    rw [hpower, abs_of_pos (by norm_num)] at hsmall
    exact lt_irrefl _ hsmall
  · obtain ⟨keeps, hprocess, hkeeps⟩ := hfilter "a" minusZero hminus _ none (hcallFilter minusZero) r
    have hword : FitsWord 0 := by decide
    refine ⟨keeps, hprocess, (hkeeps _).2 ⟨.integer 0 hword, rfl, hzero⟩, ?_, ?_⟩
    · intro h
      obtain ⟨j, hget, -⟩ := (hkeeps _).1 h
      cases hget
    · exact (hkeeps _).2 ⟨.float minusZero hminus, rfl, rfl⟩
  · obtain ⟨r', hprocess, hrecords, hall⟩ :=
      hspoof "a" (.number large) _ none _ none (hcallSpoof large) (hcallFilter large) r
    exact ⟨r', hprocess, by rw [hrecords]; rfl, hall⟩

end RecordFlow.Node
