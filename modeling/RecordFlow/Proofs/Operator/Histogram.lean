import RecordFlow.Proofs.Json.Labels
import RecordFlow.Proofs.Operator.Partition
import RecordFlow.Proofs.Resource.Reading
import RecordFlow.Regex.Engine

/-! # Values counted together

A histogram counts labels. It counts two records together if their values are the same, or if
one of them is a string that spells the other. This is strict equality as long as no string
spells another value, and no two values are equal in different forms. An integer and a number
with a fraction of zero are such values, and so are two zeros of different signs.
-/

namespace RecordFlow.Node

section

variable [Engine]

variable {bound : Parameters} {overrides : Option Parameters} {a : Aggregate}

/-- A histogram of a resource as it is held in memory leaves the size of each group. Two records are in one group
if and only if their values are the same or one spells the other. This agrees with strict equality if and only if
neither value spells the other and the two are not equal in different forms. -/
theorem process_frequencies {p : Resolved} {name : String}
    (hp : (ofOperator .aggregate bound).resolve overrides = .ok p) (hname : p.string "operation" = .ok name)
    (haggregation : Aggregation.ofName? name = some a.aggregation) (htarget : p.string "target" = .ok a.target)
    (hgroupKey : p.string "groupKey" = .ok a.groupKey) (ha : a.aggregation = .histogram) {r : Resource}
    (hr : r.Ordered) :
    ∃ groups, Group.Divide a.target (r.recordsWith a.target) groups ∧
      (ofOperator .aggregate bound).process overrides r =
        .ok { r with records := groups.map fun g => g.toRecord "frequency" (.ofNat g.members.length) } ∧
      ∀ first ∈ r.records, ∀ second ∈ r.records, ∀ x y,
        first.get? a.target = some x → second.get? a.target = some y →
        let together := ∃ g ∈ groups, first ∈ g.members ∧ second ∈ g.members
        (together ↔ x = y ∨ x.Spells y ∨ y.Spells x) ∧
          ((together ↔ x.strictEquals y) ↔ ¬ x.Spells y ∧ ¬ y.Spells x ∧ (x.strictEquals y → x = y)) := by
  have hplan := Operator.plan_aggregate_of_strings hp hname haggregation htarget hgroupKey
  have hdivide := Group.divide_ofRecords a.target (r.recordsWith a.target)
  refine ⟨_, hdivide, process_histogram hplan ha r, ?_⟩
  intro first hfirst second hsecond x y hx hy together
  have hcarries {record : Record} {value : Json} (hrecord : record ∈ r.records)
      (hvalue : record.get? a.target = some value) : record ∈ r.recordsWith a.target :=
    List.mem_filter.2 ⟨hrecord, Dict.contains_of_some hvalue⟩
  have hxordered := hr.records first hfirst a.target x hx
  have hyordered := hr.records second hsecond a.target y hy
  have htogether : together ↔ x.label = y.label :=
    hdivide.together_iff (hcarries hfirst hx) (hcarries hsecond hy) hx hy
  rw [htogether]
  constructor
  · exact Json.label_eq_label_iff hxordered hyordered
  · exact Json.label_agrees_iff hxordered hyordered

end

open scoped Regex

/-- The integer two is not counted together with the number two that has a fraction, which it equals, but it is
counted together with the string of its digit. -/
theorem process_frequencies_of_two :
    let bound : Parameters := .ofList [("operation", .string "histogramFrequency")]
    let p : Resolved := ⟨"Aggregate", .ofList [("target", .string "contentValue"),
      ("operation", .string "histogramFrequency"), ("groupKey", .string "contentType")]⟩
    let a : Aggregate := ⟨.histogram, "contentValue", "contentType"⟩
    let n := ofOperator .aggregate bound
    let record (value : Json) : Record := .ofList [("contentValue", value)]
    let integer := Json.ofNat 2
    let fraction := Json.ofBinary64 (.ofNat 2)
    let r : Resource := ⟨"event", none, [record integer, record fraction, record (.string "2")]⟩
    (n.resolve none = .ok p ∧ p.string "operation" = .ok "histogramFrequency" ∧
      Aggregation.ofName? "histogramFrequency" = some a.aggregation ∧ p.string "target" = .ok a.target ∧
      p.string "groupKey" = .ok a.groupKey ∧ a.aggregation = .histogram ∧ r.Ordered) ∧
    integer.strictEquals fraction ∧ ¬ integer.strictEquals (.string "2") ∧
    ∃ groups, Group.Divide a.target (r.recordsWith a.target) groups ∧
      n.process none r =
        .ok { r with records := groups.map fun g => g.toRecord "frequency" (.ofNat g.members.length) } ∧
      (¬ ∃ g ∈ groups, record integer ∈ g.members ∧ record fraction ∈ g.members) ∧
      ∃ g ∈ groups, record integer ∈ g.members ∧ record (.string "2") ∈ g.members := by
  intro bound p a n record integer fraction r
  have hp : n.resolve none = .ok p := by rfl
  have hname : p.string "operation" = .ok "histogramFrequency" := by rfl
  have haggregation : Aggregation.ofName? "histogramFrequency" = some a.aggregation := by rfl
  have htarget : p.string "target" = .ok a.target := by rfl
  have hgroupKey : p.string "groupKey" = .ok a.groupKey := by rfl
  have hget (value : Json) : (record value).get? a.target = some value := by rfl
  have hrecord {value : Json} (h : value.Ordered) : (record value).Ordered := by
    refine Record.ordered_ofList fun e he => ?_
    rw [List.mem_singleton.1 he]
    exact h
  have hr : r.Ordered := by
    refine ⟨nofun, ?_⟩
    rw [List.forall_mem_cons, List.forall_mem_cons, List.forall_mem_singleton]
    exact ⟨hrecord (Json.ordered_ofInt 2), hrecord (Json.ordered_ofBinary64 _), hrecord (.string "2")⟩
  have hequal : integer.strictEquals fraction := by decide +kernel
  have hother : ¬ integer.strictEquals (.string "2") := by decide +kernel
  obtain ⟨groups, hdivide, hprocess, hpairs⟩ :=
    process_frequencies hp hname haggregation htarget hgroupKey rfl hr
  refine ⟨⟨hp, hname, haggregation, htarget, hgroupKey, rfl, hr⟩, hequal, hother, groups, hdivide, hprocess, ?_, ?_⟩
  · intro htogether
    have hpair := hpairs (record integer) (by simp [r]) (record fraction) (by simp [r]) _ _ (hget _) (hget _)
    rcases hpair.1.1 htogether with heq | hspells | hspells
    · exact absurd (congrArg Json.label heq) (by decide +kernel)
    · exact hspells.not_strictEquals hequal
    · exact hspells.not_strictEquals (Json.equivalence_strictEquals.symm hequal)
  · have hpair := hpairs (record integer) (by simp [r]) (record (.string "2")) (by simp [r]) _ _ (hget _) (hget _)
    have htext : integer.compact = "2" := by decide +kernel
    have hkind : integer.kind ≠ .string := by decide +kernel
    exact hpair.1.2 (.inr (.inr (htext ▸ .string hkind)))

end RecordFlow.Node
