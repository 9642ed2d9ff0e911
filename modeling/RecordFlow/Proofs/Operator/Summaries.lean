import RecordFlow.Proofs.Operator.Coarsening
import RecordFlow.Proofs.Operator.Grouping
import RecordFlow.Proofs.Operator.Selection
import RecordFlow.Regex.Engine

/-! # Numbers written by summaries

A percentage, a sum or an average is written as a number if it stays within the range of
floating point numbers on the way, and as null otherwise. An average of no records is null
as well.
-/

namespace RecordFlow

open Binary64

structure Json.NumberIf (condition : Prop) (value : Json) : Prop where
  number : condition → value.kind = .number
  null : ¬ condition → value = .null

theorem Json.numberIf_ofBinary64 {condition : Prop} {x : Binary64} (h : x.isFinite ↔ condition) :
    (Json.ofBinary64 x).NumberIf condition where
  number hcondition := Json.kind_ofBinary64 (h.2 hcondition)
  null hcondition := Json.ofBinary64_of_not_isFinite fun hfinite => hcondition (h.1 hfinite)

namespace Summary

/-- Whether a sum or an average can be found within the range of floating point numbers. -/
def Within (s : Summary) (target : String) (records : List Record) : Prop :=
  (s = average → records ≠ []) ∧ SumsWithin (numbersOf target records)

variable {s : Summary} {target : String} {records : List Record} {value : Json}

theorem isFinite_sum_numbersOf_iff :
    (Binary64.sum (numbersOf target records)).isFinite ↔ SumsWithin (numbersOf target records) :=
  isFinite_sum_iff fun _ => isFinite_of_mem_numbersOf

/-- A sum or an average is a number if it stays within the range, since a division by the count of the records
never leaves it. -/
theorem numberIf_of_apply (hs : s ≠ .count) (h : s.apply target records = .ok value) :
    value.NumberIf (s.Within target records) := by
  cases s with
  | count => exact absurd rfl hs
  | sum =>
    obtain ⟨total, htotal, rfl⟩ := Literal.map_eq_ok h
    rw [sumOf_of_numeric (numeric_of_sumOf htotal)] at htotal
    cases htotal
    refine Json.numberIf_ofBinary64 (isFinite_sum_numbersOf_iff.trans ?_)
    exact (and_iff_right nofun).symm
  | average =>
    cases records with
    | nil =>
      cases h
      exact ⟨fun hwithin => absurd rfl (hwithin.1 rfl), fun _ => rfl⟩
    | cons record records =>
      obtain ⟨mean, hmean, rfl⟩ := Literal.map_eq_ok h
      obtain ⟨total, htotal, rfl⟩ := Literal.map_eq_ok hmean
      rw [sumOf_of_numeric (numeric_of_sumOf htotal)] at htotal
      cases htotal
      refine Json.numberIf_ofBinary64 ((isFinite_div_ofNat_iff (Nat.succ_pos _)).trans ?_)
      exact isFinite_sum_numbersOf_iff.trans (and_iff_right fun _ => List.cons_ne_nil record records).symm

end Summary

namespace Fuzz

/-- Whether a percentage can be found within the range of floating point numbers: the hundredfold, and what this
is divided by the largest number. -/
def PercentageWithin (x m : Binary64) : Prop :=
  |x.value * 100| < limit ∧ |(x.mul (.ofNat 100)).value / m.value| < limit

theorem numberIf_percentage {x m : Binary64} (hx : x.isFinite) (hm : m.isFinite) (hne : m.value ≠ 0) :
    (percentage x m).NumberIf (PercentageWithin x m) := by
  have hhundred : Exact 100 := exact_of_le (by decide)
  have hmul : (x.mul (.ofNat 100)).isFinite ↔ |x.value * 100| < limit := by
    rw [isFinite_mul_iff hx (isFinite_ofNat hhundred), value_ofNat hhundred, Nat.cast_ofNat]
  refine Json.numberIf_ofBinary64 ?_
  by_cases hwithin : (x.mul (.ofNat 100)).isFinite
  · rw [isFinite_div_iff hwithin hm hne, PercentageWithin, ← hmul, and_iff_right hwithin]
  · -- what is infinite stays so when it is divided by a finite number
    exact iff_of_false (not_isFinite_div hwithin hm) fun h => hwithin (hmul.2 h.1)

end Fuzz

variable [Engine]

variable {bound : Parameters} {overrides : Option Parameters} {r r' : Resource}

/-- Whether each record with the target has its percentage of the largest number in the result. -/
def Fuzz.WritesPercentages (f : Fuzz) (r r' : Resource) : Prop :=
  List.Forall₂ (fun record written => ∃ x m value, record.number? f.target = some x ∧
    m.Largest (numbersOf f.target r.records) ∧ written.get? f.target = some value ∧
    value.NumberIf (PercentageWithin x m)) (r.recordsWith f.target) r'.records

/-- Whether a sum or an average of the records with the target is in the metadata of the result. -/
def Aggregate.WritesTotal (a : Aggregate) (s : Summary) (r r' : Resource) : Prop :=
  ∃ value, r'.metadata? s.key = some value ∧ value.NumberIf (s.Within a.target (r.recordsWith a.target))

/-- Whether the result has a record with a sum or an average for each label. -/
def Aggregate.WritesTotals (a : Aggregate) (r r' : Resource) : Prop :=
  List.Forall₂ (fun label written => ∃ value, written.get? "contentValue" = some value ∧
    value.NumberIf (SumsWithin (numbersOf a.target (r.labelled a.target a.groupedBy label).records)))
    (Group.labels a.groupedBy (r.recordsWith a.target)) r'.records

namespace Node

theorem writesPercentages {f : Fuzz} (hplan : Operator.fuzz.plan bound overrides = .ok (.fuzz f))
    (hpercent : f.coarsening = .percent) (h : (ofOperator .fuzz bound).process overrides r = .ok r') :
    f.WritesPercentages r r' := by
  have happlies := applies_of_process_fuzz hplan h
  rw [process_fuzz_of_applies hplan happlies] at h
  cases h
  refine List.forall₂_map_right_iff.2 (List.forall₂_same.2 fun record hrecord => ?_)
  obtain ⟨hmem, hcontains⟩ := List.mem_filter.1 hrecord
  have hsome := (happlies.numeric record hmem).isSome_number?
  rw [hcontains] at hsome
  obtain ⟨x, hx⟩ := Option.isSome_iff_exists.1 hsome
  have hxmem : x ∈ numbersOf f.target r.records := List.mem_filterMap.2 ⟨record, hmem, hx⟩
  cases hm : Fuzz.maximum? (numbersOf f.target r.records) with
  | none =>
    rw [Fuzz.maximum?_eq_none_iff.1 hm] at hxmem
    cases hxmem
  | some m =>
    have hlargest := Fuzz.largest_of_maximum?_numbersOf hm
    refine ⟨x, m, Fuzz.percentage x m, hx, hlargest, ?_, ?_⟩
    · rw [Fuzz.rewrite, hx, Option.map_some, Option.getD_some, Dict.get?_insert, if_pos rfl,
        Fuzz.replacement_of_percent hpercent, hm, Option.getD_some]
    · exact Fuzz.numberIf_percentage (isFinite_of_mem_numbersOf hxmem) (isFinite_of_mem_numbersOf hlargest.mem)
        (happlies.ne_zero hpercent m hlargest)

theorem writesTotal {a : Aggregate} (hplan : Operator.aggregate.plan bound overrides = .ok (.aggregate a))
    {s : Summary} (hscalar : a.aggregation = .scalar s) (hs : s ≠ .count)
    (h : (ofOperator .aggregate bound).process overrides r = .ok r') : a.WritesTotal s r r' := by
  have hprocess : (ofOperator .aggregate bound).process overrides r =
      Operator.aggregate.onData ((s.apply a.target (r.recordsWith a.target)).map (Aggregate.replaceBy r s.key)) := by
    rw [process_ofOperator, hplan]
    show Operator.aggregate.onData (a.apply r) = _
    simp only [Aggregate.apply, hscalar]
  rw [hprocess, Operator.onData_eq_ok_iff] at h
  obtain ⟨value, hvalue, rfl⟩ := Literal.map_eq_ok h
  refine ⟨value, ?_, Summary.numberIf_of_apply hs hvalue⟩
  simp [Resource.metadata?, Aggregate.replaceBy, Dict.get?_insert]

theorem writesTotals {a : Aggregate} (hplan : Operator.aggregate.plan bound overrides = .ok (.aggregate a))
    (hgrouped : a.aggregation = .groupSum ∨ a.aggregation = .groupAverage)
    (h : (ofOperator .aggregate bound).process overrides r = .ok r') : a.WritesTotals r r' := by
  obtain ⟨title, htitle, hs⟩ : ∃ title, a.aggregation.title? = some title ∧ a.aggregation.summary ≠ .count := by
    rcases hgrouped with heq | heq <;> rw [heq] <;> exact ⟨_, rfl, Summary.noConfusion⟩
  rw [process_of_title hplan htitle, Operator.onData_eq_ok_iff] at h
  obtain ⟨records, hrecords, rfl⟩ := Literal.map_eq_ok h
  obtain ⟨value, hvalue, rfl⟩ := Group.exists_of_summarize_ok hrecords
  rw [Aggregate.WritesTotals, List.map_map]
  refine List.forall₂_map_right_iff.2 (List.forall₂_same.2 fun label hlabel => ?_)
  refine ⟨value (r.group a.target a.groupedBy label), ?_, ?_⟩
  · exact (Dict.get?_ofList_of_nodup (by simp) "contentValue").trans rfl
  · have hnumber := Summary.numberIf_of_apply hs (hvalue _ (List.mem_map_of_mem hlabel))
    have hmembers : (r.labelled a.target a.groupedBy label).records ≠ [] := Group.mem_labels_iff.1 hlabel
    have hwithin : a.aggregation.summary.Within a.target (r.labelled a.target a.groupedBy label).records ↔
        SumsWithin (numbersOf a.target (r.labelled a.target a.groupedBy label).records) :=
      and_iff_right fun _ => hmembers
    rw [← hwithin]
    exact hnumber

/-- A call for percentages, sums or averages that succeeds writes numbers, except for an average of no records and
for results that leave the range of floating point numbers on the way, which are null. -/
theorem process_summaries (bound : Parameters) (overrides : Option Parameters) (r r' : Resource) :
    (∀ f, Operator.fuzz.plan bound overrides = .ok (.fuzz f) → f.coarsening = .percent →
      (ofOperator .fuzz bound).process overrides r = .ok r' → f.WritesPercentages r r') ∧
    ∀ a, Operator.aggregate.plan bound overrides = .ok (.aggregate a) →
      (ofOperator .aggregate bound).process overrides r = .ok r' →
      (∀ s, a.aggregation = .scalar s → s ≠ .count → a.WritesTotal s r r') ∧
      (a.aggregation = .groupSum ∨ a.aggregation = .groupAverage → a.WritesTotals r r') := by
  refine ⟨fun f hplan hpercent h => writesPercentages hplan hpercent h, fun a hplan h => ⟨?_, ?_⟩⟩
  · exact fun s hscalar hs => writesTotal hplan hscalar hs h
  · exact fun hgrouped => writesTotals hplan hgrouped h

end Node

end RecordFlow

namespace RecordFlow.Node

open Binary64

open scoped Regex

/-- Percentages, an average that is a number, and sums for labels, all of the same two records. -/
theorem process_summaries_of_two :
    let record (place level : Nat) : Record := .ofList [("at", .ofNat place), ("level", .ofNat level)]
    let r : Resource := ⟨"event", none, [record 1 10, record 2 50]⟩
    let bound : Parameters := .ofList [("fuzzType", .scalar (.string "percent")),
      ("operation", .scalar (.string "average")), ("target", .scalar (.string "level")),
      ("groupKey", .scalar (.string "at"))]
    let overrides : Parameters := .ofList [("operation", .scalar (.string "groupSum"))]
    let f : Fuzz := ⟨"level", .percent⟩
    let a : Aggregate := ⟨.scalar .average, "level", "at"⟩
    let grouped : Aggregate := ⟨.groupSum, "level", "at"⟩
    (∃ r', (ofOperator .fuzz bound).process none r = .ok r' ∧ f.WritesPercentages r r') ∧
      (∃ r', (ofOperator .aggregate bound).process none r = .ok r' ∧ a.WritesTotal .average r r' ∧
        (r'.metadata? "average").map Json.kind = some .number) ∧
      ∃ r', (ofOperator .aggregate bound).process (some overrides) r = .ok r' ∧ grouped.WritesTotals r r' := by
  intro record r bound overrides f a grouped
  obtain ⟨r₁, h₁⟩ := exists_eq_ok_of_isOk (x := (ofOperator .fuzz bound).process none r) (by decide +kernel)
  obtain ⟨r₂, h₂⟩ := exists_eq_ok_of_isOk (x := (ofOperator .aggregate bound).process none r) (by decide +kernel)
  obtain ⟨r₃, h₃⟩ := exists_eq_ok_of_isOk (x := (ofOperator .aggregate bound).process (some overrides) r)
    (by decide +kernel)
  have hplan : Operator.fuzz.plan bound none = .ok (.fuzz f) := by rfl
  have hplan' : Operator.aggregate.plan bound none = .ok (.aggregate a) := by rfl
  have hgrouped : Operator.aggregate.plan bound (some overrides) = .ok (.aggregate grouped) := by rfl
  refine ⟨⟨r₁, h₁, (process_summaries bound none r r₁).1 f hplan rfl h₁⟩, ?_, r₃, h₃, ?_⟩
  · have htotal := ((process_summaries bound none r r₂).2 a hplan' h₂).1 .average rfl (by decide)
    refine ⟨r₂, h₂, htotal, ?_⟩
    obtain ⟨value, hvalue, hnumber⟩ := htotal
    rw [show r₂.metadata? "average" = some value from hvalue]
    refine congrArg some (hnumber.number ⟨fun _ => List.ne_nil_of_length_pos (by decide +kernel), ?_⟩)
    exact Summary.isFinite_sum_numbersOf_iff.1 (by decide +kernel)
  · exact ((process_summaries bound (some overrides) r r₃).2 grouped hgrouped h₃).2 (.inl rfl)

/-- The average of two equal numbers is null, since their sum is too large. -/
theorem average_beyond_range :
    let large : Json := .ofBinary64 (.ofDecimal false ⟨1, 308⟩)
    let record : Record := .ofList [("contentValue", large)]
    let r : Resource := ⟨"event", none, [record, record]⟩
    let bound : Parameters := .ofList [("operation", .scalar (.string "average"))]
    let result := ((ofOperator .aggregate bound).process none r).toOption
    large.kind = .number ∧ r.recordsWith "contentValue" = r.records ∧
      (result.bind (·.metadata? "average")).map Json.kind = some .null := by
  intro large record r bound result
  exact ⟨by decide +kernel, rfl, by decide +kernel⟩

end RecordFlow.Node
