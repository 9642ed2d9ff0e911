import RecordFlow.Proofs.Operator.Failure
import RecordFlow.Proofs.Operator.Narrowing
import RecordFlow.Regex.Engine

/-! # Groups of records

A group has all records with its label, in their order, and groups stand in the order
of their first records. So a grouped aggregation finds for each label what a scalar
aggregation finds for the records with that label, and it fails if and only if one of
these fails.
-/

namespace RecordFlow

theorem eraseDups_concat (labels : List String) (label : String) :
    (labels ++ [label]).eraseDups =
      if label ∈ labels then labels.eraseDups else labels.eraseDups ++ [label] := by
  rw [List.eraseDups_append]
  split
  · next h => simp [List.removeAll, h]
  · next h => simp [List.removeAll, h, List.eraseDups_cons]

theorem nodup_eraseDups (labels : List String) : labels.eraseDups.Nodup := by
  induction labels using List.reverseRecOn with
  | nil => exact .nil
  | append_singleton labels label ih =>
    rw [eraseDups_concat]
    split
    · exact ih
    · next h =>
      refine List.nodup_append.2 ⟨ih, List.pairwise_singleton _ label, fun l hl l' hl' => ?_⟩
      rintro rfl
      exact h (List.mem_singleton.1 hl' ▸ List.mem_eraseDups.1 hl)

namespace Group

variable {key : String}

def label? (key : String) (record : Record) : Option String := (record.get? key).map Json.label

/-- The labels of records, in the order in which they first appear. -/
def labels (key : String) (records : List Record) : List String :=
  (records.filterMap (label? key)).eraseDups

def withLabel (key : String) (records : List Record) (label : String) : List Record :=
  records.filter (label? key · = some label)

theorem label?_of_some {record : Record} {value : Json} (h : record.get? key = some value) :
    label? key record = some value.label := by
  rw [label?, h]
  rfl

theorem mem_withLabel_iff {records : List Record} {record : Record} {label : String} :
    record ∈ withLabel key records label ↔ record ∈ records ∧ label? key record = some label := by
  rw [withLabel, List.mem_filter, decide_eq_true_eq]

theorem mem_labels_iff {records : List Record} {label : String} :
    label ∈ labels key records ↔ withLabel key records label ≠ [] := by
  rw [labels, List.mem_eraseDups, List.mem_filterMap, withLabel, ne_eq, List.filter_eq_nil_iff]
  simp

theorem label_mem_labels {records : List Record} {record : Record} {value : Json} (hrecord : record ∈ records)
    (h : record.get? key = some value) : value.label ∈ labels key records := by
  have hmem : record ∈ withLabel key records value.label :=
    mem_withLabel_iff.2 ⟨hrecord, label?_of_some h⟩
  exact mem_labels_iff.2 (List.ne_nil_of_mem hmem)

theorem labels_concat (records : List Record) (record : Record) : labels key (records ++ [record]) =
    match label? key record with
    | none => labels key records
    | some label =>
      if label ∈ labels key records then labels key records else labels key records ++ [label] := by
  rw [labels, List.filterMap_append]
  cases h : label? key record with
  | none => simp [h, labels]
  | some label =>
    have hlast : [record].filterMap (label? key) = [label] := by simp [h]
    rw [hlast, eraseDups_concat]
    simp only [labels, List.mem_eraseDups]

theorem withLabel_concat (records : List Record) (record : Record) (label : String) :
    withLabel key (records ++ [record]) label =
      if label? key record = some label then withLabel key records label ++ [record]
      else withLabel key records label := by
  rw [withLabel, List.filter_append]
  split
  · next h => simp [h, withLabel]
  · next h => simp [h, withLabel]

theorem add_of_not_mem {label : String} {gs : List Group} (h : ∀ g ∈ gs, g.label ≠ label) (record : Record) :
    add label record gs = gs ++ [⟨label, [record]⟩] := by
  induction gs with
  | nil => rfl
  | cons g gs ih =>
    obtain ⟨hg, hgs⟩ := List.forall_mem_cons.1 h
    rw [add, if_neg hg, ih hgs, List.cons_append]

theorem add_of_mem {label : String} {names : List String} (hnodup : names.Nodup) (h : label ∈ names)
    (members : String → List Record) (record : Record) :
    add label record (names.map fun name => ⟨name, members name⟩) =
      names.map fun name => ⟨name, if label = name then members name ++ [record] else members name⟩ := by
  induction names with
  | nil => cases h
  | cons name names ih =>
    obtain ⟨hhead, hnodup⟩ := List.nodup_cons.1 hnodup
    rw [List.map_cons, List.map_cons, add]
    split
    · next heq =>
      obtain rfl : name = label := heq
      have hrest (other : String) (hother : other ∈ names) : name ≠ other := by
        rintro rfl
        exact hhead hother
      rw [if_pos rfl]
      congr 1
      exact List.map_congr_left fun other hother => by rw [if_neg (hrest other hother)]
    · next hne =>
      rw [ih hnodup ((List.mem_cons.1 h).resolve_left fun heq => hne heq.symm),
        if_neg fun heq => hne heq.symm]

/-- There is one group for each label, and its members are the records with this label. -/
theorem ofRecords_eq (key : String) (records : List Record) :
    ofRecords key records = (labels key records).map fun label => ⟨label, withLabel key records label⟩ := by
  induction records using List.reverseRecOn with
  | nil => rfl
  | append_singleton records record ih =>
    simp only [labels_concat, withLabel_concat]
    cases hvalue : record.get? key with
    | none =>
      have hlabel : label? key record = none := by rw [label?, hvalue]; rfl
      rw [ofRecords_concat_of_none hvalue, ih]
      simp only [hlabel, reduceCtorEq, if_false]
    | some value =>
      rw [ofRecords_concat_of_some hvalue, ih]
      simp only [label?_of_some hvalue, Option.some.injEq]
      split
      · next hmem => exact add_of_mem (nodup_eraseDups _) hmem _ record
      · next hmem =>
        have hnone : withLabel key records value.label = [] := by
          by_contra h
          exact hmem (mem_labels_iff.2 h)
        have hother {label : String} (h : label ∈ labels key records) : value.label ≠ label := by
          rintro rfl
          exact hmem h
        rw [add_of_not_mem, List.map_append]
        · congr 1
          · exact List.map_congr_left fun label h => by rw [if_neg (hother h)]
          · simp [hnone]
        · intro g hg heq
          obtain ⟨label, h, rfl⟩ := List.mem_map.1 hg
          exact hother h heq.symm

variable {title : String} {summary : List Record → Except DataFault Json} {gs : List Group}

theorem summarize_of_forall_ok (title : String) (value : Group → Json)
    (h : ∀ g ∈ gs, summary g.members = .ok (value g)) :
    summarize title summary gs = .ok (gs.map fun g => g.toRecord title (value g)) := by
  induction gs with
  | nil => rfl
  | cons g gs ih =>
    obtain ⟨hg, hgs⟩ := List.forall_mem_cons.1 h
    rw [summarize, hg, ih hgs]
    rfl

theorem exists_of_summarize_error {fault : DataFault} (h : summarize title summary gs = .error fault) :
    ∃ g ∈ gs, summary g.members = .error fault := by
  induction gs with
  | nil => cases h
  | cons g gs ih =>
    unfold summarize at h
    split at h
    · next hg =>
      cases h
      exact ⟨g, List.mem_cons_self, hg⟩
    · cases hrest : summarize title summary gs with
      | error fault' =>
        rw [hrest] at h
        cases h
        obtain ⟨g', hmem, hg'⟩ := ih hrest
        exact ⟨g', List.mem_cons_of_mem g hmem, hg'⟩
      | ok records =>
        rw [hrest] at h
        cases h

theorem exists_summarize_error (title : String) {g : Group} {fault : DataFault} (hg : g ∈ gs)
    (h : summary g.members = .error fault) : ∃ fault', summarize title summary gs = .error fault' := by
  induction gs with
  | nil => cases hg
  | cons g' gs ih =>
    unfold summarize
    split
    · next fault' _ => exact ⟨fault', rfl⟩
    · next value hvalue =>
      rcases List.mem_cons.1 hg with rfl | hg
      · cases h.symm.trans hvalue
      · obtain ⟨fault', hrest⟩ := ih hg
        exact ⟨fault', by rw [hrest]; rfl⟩

theorem exists_of_summarize_ok {records : List Record} (h : summarize title summary gs = .ok records) :
    ∃ value : Group → Json, (∀ g ∈ gs, summary g.members = .ok (value g)) ∧
      records = gs.map fun g => g.toRecord title (value g) := by
  have hvalue (g : Group) : ∃ value, g ∈ gs → summary g.members = .ok value := by
    cases hg : summary g.members with
    | ok value => exact ⟨value, fun _ => rfl⟩
    | error fault =>
      refine ⟨.null, fun hmem => ?_⟩
      obtain ⟨fault', hfault'⟩ := exists_summarize_error title hmem hg
      cases h.symm.trans hfault'
  choose value hvalue using hvalue
  refine ⟨value, hvalue, ?_⟩
  rw [summarize_of_forall_ok title value hvalue] at h
  exact (Except.ok.inj h).symm

end Group

namespace Aggregation

def summary : Aggregation → Summary
  | scalar s => s
  | groupSum => .sum
  | groupAverage => .average
  | histogram => .count

def title? : Aggregation → Option String
  | scalar _ => none
  | groupSum => some "group sum"
  | groupAverage => some "group average"
  | histogram => some "frequency"

end Aggregation

/-- The key by which records are grouped. A histogram has its target as its own key. -/
def Aggregate.groupedBy (a : Aggregate) : String :=
  if a.aggregation = .histogram then a.target else a.groupKey

/-- The resource with only the records that carry a field and have a label under a key. -/
def Resource.labelled (r : Resource) (target key label : String) : Resource :=
  { r with records := Group.withLabel key (r.recordsWith target) label }

def Resource.group (r : Resource) (target key label : String) : Group :=
  ⟨label, (r.labelled target key label).records⟩

variable {r r' : Resource}

theorem Aggregate.apply_of_title {a : Aggregate} {title : String} (h : a.aggregation.title? = some title)
    (r : Resource) : a.apply r =
      (Group.summarize title (a.aggregation.summary.apply a.target)
        (Group.ofRecords a.groupedBy (r.recordsWith a.target))).map fun records => { r with records } := by
  obtain ⟨aggregation, target, groupKey⟩ := a
  cases aggregation with
  | scalar s => cases h
  | groupSum | groupAverage | histogram =>
    cases h
    rfl

theorem Summary.apply_nil (s : Summary) (target : String) : ∃ value, s.apply target [] = .ok value := by
  cases s <;> exact ⟨_, rfl⟩

/-- Records that were selected for a field are not selected further by it. -/
theorem Resource.recordsWith_labelled (r : Resource) (target key label : String) :
    (r.labelled target key label).recordsWith target = (r.labelled target key label).records := by
  refine List.filter_eq_self.2 fun record hrecord => ?_
  have hmem : record ∈ r.recordsWith target := (List.mem_filter.1 hrecord).1
  exact (List.mem_filter.1 hmem).2

variable [Engine]

theorem Aggregate.ofParameters_eq_ok_iff {p : Resolved} {a : Aggregate} : Aggregate.ofParameters p = .ok a ↔
    (∃ name, p.string "operation" = .ok name ∧ Aggregation.ofName? name = some a.aggregation) ∧
      p.string "target" = .ok a.target ∧ p.string "groupKey" = .ok a.groupKey := by
  constructor
  · intro h
    have hname := Aggregate.aggregation_of_ofParameters h
    obtain ⟨aggregation, -, h⟩ := bind_eq_ok_iff.1 h
    obtain ⟨target, htarget, h⟩ := bind_eq_ok_iff.1 h
    obtain ⟨groupKey, hgroupKey, h⟩ := bind_eq_ok_iff.1 h
    cases h
    exact ⟨hname, htarget, hgroupKey⟩
  · rintro ⟨hname, htarget, hgroupKey⟩
    refine bind_eq_ok_iff.2 ⟨a.aggregation, Resolved.choice_eq_ok_iff.2 hname, ?_⟩
    refine bind_eq_ok_iff.2 ⟨a.target, htarget, ?_⟩
    exact bind_eq_ok_iff.2 ⟨a.groupKey, hgroupKey, rfl⟩

/-- The overrides of a call with a certain operation in place of its own. -/
def Parameters.withOperation (overrides : Option Parameters) (operation : String) : Option Parameters :=
  some ((overrides.getD .empty).insert "operation" (.scalar (.string operation)))

namespace Operator

theorem onData_map_eq_error_iff {o : Operator} {α β : Type} {x : Except DataFault α} {f : α → β} {e : Error} :
    o.onData (x.map f) = .error e ↔ ∃ fault, x = .error fault ∧ e = .nodeFailure o.name fault := by
  constructor
  · intro h
    cases x with
    | ok a => cases h
    | error fault =>
      cases h
      exact ⟨fault, rfl, rfl⟩
  · rintro ⟨fault, rfl, rfl⟩
    rfl

variable {bound : Parameters} {overrides : Option Parameters} {a : Aggregate}

theorem plan_aggregate_iff : aggregate.plan bound overrides = .ok (.aggregate a) ↔
    ∃ p, Resolved.ofSchema aggregate.name aggregate.schema bound overrides = .ok p ∧
      Aggregate.ofParameters p = .ok a :=
  plan_eq_ok_iff (fun _ => rfl) fun _ => Action.aggregate.inj

/-- A call of an aggregation may ask for a scalar operation instead, on the same target. -/
theorem plan_withOperation (h : aggregate.plan bound overrides = .ok (.aggregate a)) (s : Summary) :
    aggregate.plan bound (Parameters.withOperation overrides s.key) =
      .ok (.aggregate { a with aggregation := .scalar s }) := by
  obtain ⟨p, hp, ha⟩ := plan_aggregate_iff.1 h
  obtain ⟨-, htarget, hgroupKey⟩ := Aggregate.ofParameters_eq_ok_iff.1 ha
  obtain ⟨p', hp', hget⟩ := Resolved.ofSchema_insert hp "operation" (.scalar (.string s.key))
  refine plan_aggregate_iff.2 ⟨p', hp', Aggregate.ofParameters_eq_ok_iff.2 ⟨⟨s.key, ?_, ?_⟩, ?_, ?_⟩⟩
  · rw [Resolved.string_eq_ok_iff, hget "operation" (List.mem_of_elem_eq_true rfl)]
    rfl
  · exact Aggregation.ofName?_eq_scalar_iff.2 rfl
  · rw [Resolved.string_eq_ok_iff, hget "target" (List.mem_of_elem_eq_true rfl)]
    exact Resolved.string_eq_ok_iff.1 htarget
  · rw [Resolved.string_eq_ok_iff, hget "groupKey" (List.mem_of_elem_eq_true rfl)]
    exact Resolved.string_eq_ok_iff.1 hgroupKey

end Operator

namespace Node

variable {bound : Parameters} {overrides : Option Parameters} {a : Aggregate} {title : String}

theorem process_of_title (hplan : Operator.aggregate.plan bound overrides = .ok (.aggregate a))
    (htitle : a.aggregation.title? = some title) (r : Resource) :
    (ofOperator .aggregate bound).process overrides r =
      Operator.aggregate.onData ((Group.summarize title (a.aggregation.summary.apply a.target)
        ((Group.labels a.groupedBy (r.recordsWith a.target)).map (r.group a.target a.groupedBy))).map
          fun records => { r with records }) := by
  rw [process_ofOperator, hplan]
  show Operator.aggregate.onData (a.apply r) = _
  rw [Aggregate.apply_of_title htitle, Group.ofRecords_eq]
  rfl

theorem process_withOperation (hplan : Operator.aggregate.plan bound overrides = .ok (.aggregate a))
    (s : Summary) (r : Resource) (label : String) :
    (ofOperator .aggregate bound).process (Parameters.withOperation overrides s.key)
        (r.labelled a.target a.groupedBy label) =
      Operator.aggregate.onData ((s.apply a.target (r.labelled a.target a.groupedBy label).records).map
        (Aggregate.replaceBy (r.labelled a.target a.groupedBy label) s.key)) := by
  rw [process_ofOperator, Operator.plan_withOperation hplan]
  show Operator.aggregate.onData ((s.apply a.target (Resource.recordsWith _ a.target)).map _) = _
  rw [Resource.recordsWith_labelled]

/-- A scalar call that fails has records to fail for, so its label is one of the groups. -/
theorem exists_error_of_withOperation (hplan : Operator.aggregate.plan bound overrides = .ok (.aggregate a))
    (htitle : a.aggregation.title? = some title) {label : String} {e : Error}
    (h : (ofOperator .aggregate bound).process (Parameters.withOperation overrides a.aggregation.summary.key)
      (r.labelled a.target a.groupedBy label) = .error e) :
    ∃ e', (ofOperator .aggregate bound).process overrides r = .error e' := by
  rw [process_withOperation hplan] at h
  obtain ⟨fault, hfault, -⟩ := Operator.onData_map_eq_error_iff.1 h
  have hmem : label ∈ Group.labels a.groupedBy (r.recordsWith a.target) := by
    refine Group.mem_labels_iff.2 fun hnil => ?_
    obtain ⟨value, hvalue⟩ := a.aggregation.summary.apply_nil a.target
    have hrecords : (r.labelled a.target a.groupedBy label).records = [] := hnil
    rw [hrecords, hvalue] at hfault
    cases hfault
  have hgroup : r.group a.target a.groupedBy label ∈
      (Group.labels a.groupedBy (r.recordsWith a.target)).map (r.group a.target a.groupedBy) :=
    List.mem_map_of_mem hmem
  obtain ⟨fault', hfault'⟩ := Group.exists_summarize_error title hgroup hfault
  rw [process_of_title hplan htitle]
  exact ⟨_, Operator.onData_map_eq_error_iff.2 ⟨fault', hfault', rfl⟩⟩

/-- A grouped call fails as the scalar call does for some label. -/
theorem exists_withOperation_error (hplan : Operator.aggregate.plan bound overrides = .ok (.aggregate a))
    (htitle : a.aggregation.title? = some title) {e : Error}
    (h : (ofOperator .aggregate bound).process overrides r = .error e) :
    ∃ label, (ofOperator .aggregate bound).process (Parameters.withOperation overrides a.aggregation.summary.key)
      (r.labelled a.target a.groupedBy label) = .error e := by
  rw [process_of_title hplan htitle] at h
  obtain ⟨fault, hfault, rfl⟩ := Operator.onData_map_eq_error_iff.1 h
  obtain ⟨g, hg, hfault⟩ := Group.exists_of_summarize_error hfault
  obtain ⟨label, -, rfl⟩ := List.mem_map.1 hg
  refine ⟨label, ?_⟩
  rw [process_withOperation hplan]
  exact Operator.onData_map_eq_error_iff.2 ⟨fault, hfault, rfl⟩

/-- A grouped call leaves one record for each label that a record with the target has under the key of the
groups, in the order in which labels first appear, with the value that a call with the scalar operation
writes into the metadata for the records with this label. It fails if and only if the scalar call fails
for some label, and then as it does for some label. -/
theorem process_grouped (hplan : Operator.aggregate.plan bound overrides = .ok (.aggregate a))
    (htitle : a.aggregation.title? = some title) (r : Resource) :
    let n := ofOperator .aggregate bound
    let key := a.groupedBy
    let s := a.aggregation.summary
    let labels := Group.labels key (r.recordsWith a.target)
    let scalar (label : String) :=
      n.process (Parameters.withOperation overrides s.key) (r.labelled a.target key label)
    (labels.Nodup ∧ ∀ label, label ∈ labels ↔ (r.labelled a.target key label).records ≠ []) ∧
    (∀ r', n.process overrides r = .ok r' → ∃ value : String → Json,
      (∀ label, ∃ r'', scalar label = .ok r'' ∧ r''.metadata? s.key = some (value label)) ∧
      r' = { r with
        records := labels.map fun label =>
          .ofList [("contentType", .string (title ++ " " ++ label)), ("contentValue", value label)] }) ∧
    ((∃ e, n.process overrides r = .error e) ↔ ∃ label e, scalar label = .error e) ∧
    ∀ e, n.process overrides r = .error e → ∃ label, scalar label = .error e := by
  intro n key s labels scalar
  have hlabels (label : String) : label ∈ labels ↔ (r.labelled a.target key label).records ≠ [] :=
    Group.mem_labels_iff
  refine ⟨⟨nodup_eraseDups _, hlabels⟩, fun r' h => ?_, ?_, fun e h => exists_withOperation_error hplan htitle h⟩
  · have hvalue (label : String) :
        ∃ value, s.apply a.target (r.labelled a.target key label).records = .ok value := by
      cases hfound : s.apply a.target (r.labelled a.target key label).records with
      | ok value => exact ⟨value, rfl⟩
      | error fault =>
        have hscalar : scalar label = .error (.nodeFailure Operator.aggregate.name fault) :=
          (process_withOperation hplan s r label).trans
            (Operator.onData_map_eq_error_iff.2 ⟨fault, hfound, rfl⟩)
        obtain ⟨e, he⟩ := exists_error_of_withOperation hplan htitle hscalar
        cases he.symm.trans h
    choose value hvalue using hvalue
    refine ⟨value, fun label => ⟨_, (process_withOperation hplan s r label).trans (by rw [hvalue]; rfl), ?_⟩, ?_⟩
    · simp [Resource.metadata?, Aggregate.replaceBy, Dict.get?_insert]
    · rw [process_of_title hplan htitle, Group.summarize_of_forall_ok title fun g => value g.label,
        List.map_map] at h
      · exact (Except.ok.inj h).symm
      · intro g hg
        obtain ⟨label, -, rfl⟩ := List.mem_map.1 hg
        exact hvalue label
  · constructor
    · rintro ⟨e, h⟩
      obtain ⟨label, h⟩ := exists_withOperation_error hplan htitle h
      exact ⟨label, e, h⟩
    · rintro ⟨label, e, h⟩
      exact exists_error_of_withOperation hplan htitle h

end Node

end RecordFlow

namespace RecordFlow.Node

open scoped Regex

/-- Records in turns, some with a number for a label, have their averages in two groups. A string among
them makes the grouped call fail. -/
theorem process_grouped_in_turns :
    let bound : Parameters := .ofList [("operation", .scalar (.string "groupAverage")),
      ("target", .scalar (.string "level")), ("groupKey", .scalar (.string "at"))]
    let a : Aggregate := ⟨.groupAverage, "level", "at"⟩
    let n := ofOperator .aggregate bound
    let record (label level : Json) : Record := .ofList [("at", label), ("level", level)]
    let r : Resource := ⟨"event", none, [record (.string "1") (.ofNat 1), record (.string "b") (.ofNat 2),
      record (.ofNat 1) (.ofNat 3), .ofList [("level", .null)], .ofList [("at", .string "c")]]⟩
    let r' : Resource := { r with records := record (.string "b") (.string "high") :: r.records }
    (Operator.aggregate.plan bound none = .ok (.aggregate a) ∧ a.aggregation.title? = some "group average") ∧
      Group.labels "at" (r.recordsWith "level") = ["1", "b"] ∧
      ((n.process none r).isOk ∧ ∃ value : String → Json, ∀ label, ∃ r'',
        n.process (Parameters.withOperation none "average") (r.labelled "level" "at" label) = .ok r'' ∧
          r''.metadata? "average" = some (value label)) ∧
      ¬ (n.process none r').isOk ∧ ∃ label e,
        n.process (Parameters.withOperation none "average") (r'.labelled "level" "at" label) = .error e := by
  intro bound a n record r r'
  have hplan : Operator.aggregate.plan bound none = .ok (.aggregate a) := by rfl
  have htitle : a.aggregation.title? = some "group average" := by rfl
  have hok : (n.process none r).isOk := by decide +kernel
  have hfails : ¬ (n.process none r').isOk := by decide +kernel
  refine ⟨⟨hplan, htitle⟩, by decide +kernel, ⟨hok, ?_⟩, hfails, ?_⟩
  · obtain ⟨-, hvalue, -, -⟩ := process_grouped hplan htitle r
    cases hprocess : n.process none r with
    | error e => rw [hprocess] at hok; cases hok
    | ok result =>
      obtain ⟨value, hvalue, -⟩ := hvalue result hprocess
      exact ⟨value, hvalue⟩
  · obtain ⟨-, -, hiff, -⟩ := process_grouped hplan htitle r'
    cases hprocess : n.process none r' with
    | error e => exact hiff.1 ⟨e, hprocess⟩
    | ok result => rw [hprocess] at hfails; exact absurd rfl hfails

end RecordFlow.Node
