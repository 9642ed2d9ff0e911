import RecordFlow.Proofs.Graph.Narrowing
import RecordFlow.Proofs.Resource.Reading

/-! # Values that operators write

Operators write strings, numbers, truth values and arrays of these, and otherwise move
values about. So a resource whose values are as they are held in memory is still such a
resource after every run of a graph of operators.
-/

namespace RecordFlow

variable {r r' : Resource} {records records' : List Record}

namespace Fuzz

theorem mem_of_mem_numbers {target : String} {fault : Json.Kind → DataFault} {found : List (Record × Binary64)}
    (h : numbers target fault records = .ok found) : ∀ f ∈ found, f.1 ∈ records := by
  intro f hf
  have hmem : f.1 ∈ records.filter (·.contains target) := by
    rw [← map_fst_numbers h]
    exact List.mem_map_of_mem hf
  exact (List.mem_filter.1 hmem).1

theorem ordered_apply {f : Fuzz} (hrecords : ∀ record ∈ records, Record.Ordered record)
    (h : f.apply records = .ok records') : ∀ record ∈ records', Record.Ordered record := by
  have hinsert {found : List (Record × Binary64)} {fault : Json.Kind → DataFault}
      (hfound : numbers f.target fault records = .ok found) {p : Record × Binary64} (hp : p ∈ found) {value : Json}
      (hvalue : value.Ordered) : Record.Ordered (p.1.insert f.target value) :=
    Record.Ordered.insert (hrecords p.1 (mem_of_mem_numbers hfound p hp)) f.target hvalue
  unfold apply at h
  split at h
  · obtain ⟨found, hfound, rfl⟩ := Literal.map_eq_ok h
    intro record hrecord
    obtain ⟨p, hp, rfl⟩ := List.mem_map.1 hrecord
    exact hinsert hfound hp (.string _)
  · unfold applyPercent at h
    split at h
    · cases h
    · next found hfound =>
      split at h
      · cases h
        exact nofun
      · split at h
        · cases h
        · cases h
          intro record hrecord
          obtain ⟨p, hp, rfl⟩ := List.mem_map.1 hrecord
          exact hinsert hfound hp (Json.ordered_ofBinary64 _)

end Fuzz

theorem Summary.ordered_of_apply {s : Summary} {target : String} {value : Json}
    (h : s.apply target records = .ok value) : value.Ordered := by
  cases s with
  | count =>
    obtain rfl : Json.ofInt records.length = value := Except.ok.inj h
    exact Json.ordered_ofInt _
  | sum =>
    obtain ⟨x, -, rfl⟩ := Literal.map_eq_ok h
    exact Json.ordered_ofBinary64 x
  | average =>
    rw [Summary.apply] at h
    split at h
    · cases h
      exact .null
    · obtain ⟨x, -, rfl⟩ := Literal.map_eq_ok h
      exact Json.ordered_ofBinary64 x

theorem Group.ordered_summarize {title : String} {summary : List Record → Except DataFault Json} {gs : List Group}
    (hsummary : ∀ members value, summary members = .ok value → value.Ordered)
    (h : summarize title summary gs = .ok records) : ∀ record ∈ records, Record.Ordered record := by
  induction gs generalizing records with
  | nil =>
    cases h
    exact nofun
  | cons g gs ih =>
    unfold summarize at h
    split at h
    · cases h
    · next value hvalue =>
      obtain ⟨rest, hrest, rfl⟩ := Literal.map_eq_ok h
      refine List.forall_mem_cons.2 ⟨?_, ih hrest⟩
      refine Record.ordered_ofList (List.forall_mem_cons.2 ⟨.string _, List.forall_mem_singleton.2 ?_⟩)
      exact hsummary _ _ hvalue

theorem Aggregate.ordered_apply {a : Aggregate} (hr : r.Ordered) (h : a.apply r = .ok r') : r'.Ordered := by
  have hgrouped {key title : String} {s : Summary}
      (h : (Group.summarize title (s.apply a.target) (Group.ofRecords key (r.recordsWith a.target))).map
        (fun records => { r with records }) = .ok r') : r'.Ordered := by
    obtain ⟨records, hsummarize, rfl⟩ := Literal.map_eq_ok h
    exact ⟨hr.metadata, Group.ordered_summarize (fun _ _ hvalue => s.ordered_of_apply hvalue) hsummarize⟩
  unfold apply at h
  cases haggregation : a.aggregation with
  | scalar s =>
    rw [haggregation] at h
    obtain ⟨value, hvalue, rfl⟩ := Literal.map_eq_ok h
    refine ⟨?_, nofun⟩
    rintro _ ⟨⟩
    have hmetadata : Record.Ordered (r.metadata.getD .empty) := by
      cases hm : r.metadata with
      | none => exact nofun
      | some d => exact hr.metadata d hm
    exact hmetadata.insert s.key (s.ordered_of_apply hvalue)
  | groupSum | groupAverage | histogram =>
    rw [haggregation] at h
    exact hgrouped h

variable [Engine]

theorem Scalar.ordered_toJson (s : Scalar) : s.toJson.Ordered := by
  cases s with
  | string s => exact .string s
  | number x =>
    show (numberToJson x).Ordered
    unfold numberToJson
    split
    · split
      · exact Json.ordered_ofInt _
      · exact Json.ordered_ofBinary64 x
    · exact Json.ordered_ofBinary64 x
  | boolean b => exact .bool b
  | pattern p => exact .string _

theorem Literal.ordered_toJson (v : Literal) : v.toJson.Ordered := by
  cases v with
  | scalar s => exact s.ordered_toJson
  | array items =>
    refine .array fun item hitem => ?_
    obtain ⟨s, -, rfl⟩ := List.mem_map.1 hitem
    exact s.ordered_toJson

theorem Action.ordered_apply {a : Action} (hr : r.Ordered) (h : a.apply r = .ok r') : r'.Ordered := by
  cases a with
  | pass =>
    cases h
    exact hr
  | limit count =>
    cases h
    exact ⟨hr.metadata, fun record hrecord => hr.records record (List.mem_of_mem_take hrecord)⟩
  | filter f =>
    cases h
    exact ⟨hr.metadata, fun record hrecord => hr.records record (List.mem_filter.1 hrecord).1⟩
  | sort s =>
    cases h
    exact ⟨hr.metadata, fun record hrecord => hr.records record (List.mem_mergeSort.1 hrecord)⟩
  | select fields =>
    cases h
    refine ⟨hr.metadata, fun record hrecord => ?_⟩
    obtain ⟨old, hold, rfl⟩ := List.mem_map.1 hrecord
    exact (hr.records old hold).filterKeys _
  | fuzz f =>
    obtain ⟨records, hrecords, rfl⟩ := Literal.map_eq_ok (Operator.onData_eq_ok_iff.1 h)
    exact ⟨hr.metadata, f.ordered_apply hr.records hrecords⟩
  | aggregate a => exact a.ordered_apply hr (Operator.onData_eq_ok_iff.1 h)
  | spoof key value =>
    cases h
    refine ⟨hr.metadata, fun record hrecord => ?_⟩
    obtain ⟨old, hold, rfl⟩ := List.mem_map.1 hrecord
    exact (hr.records old hold).insert key value.ordered_toJson

namespace Graph

variable {g : Graph} {overrides : Dict Parameters} {name : String} {names : List String} {run : Run}

theorem OfOperators.ordered_runStage (hg : g.OfOperators) (hr : r.Ordered)
    (h : g.runStage overrides name r = .ok r') : r'.Ordered := by
  obtain ⟨node, hnode, hprocess⟩ := runStage_eq_ok_iff.1 h
  obtain ⟨o, bound, rfl⟩ := hg name node hnode
  obtain ⟨p, -, htransform⟩ := Node.process_eq_ok_iff.1 hprocess
  obtain ⟨a, -, happly⟩ := Operator.transform_eq_ok_iff.1 htransform
  exact a.ordered_apply hr happly

theorem OfOperators.ordered_runStages (hg : g.OfOperators) (hr : r.Ordered)
    (h : g.runStages overrides names r = .ok run) : run.result.Ordered := by
  induction names generalizing r run with
  | nil =>
    cases h
    exact hr
  | cons name names ih =>
    obtain ⟨r', rest, hstage, hrest, rfl⟩ := runStages_cons_eq_ok h
    show rest.result.Ordered
    exact ih (hg.ordered_runStage hr hstage) hrest

theorem OfOperators.ordered_execute (hg : g.OfOperators) (hr : r.Ordered)
    (h : g.execute overrides r = .ok r') : r'.Ordered := by
  obtain ⟨run, hrun, rfl⟩ := Literal.map_eq_ok h
  exact hg.ordered_runStages hr hrun

end Graph

end RecordFlow
