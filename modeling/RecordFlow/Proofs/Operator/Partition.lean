import Mathlib.Algebra.GroupWithZero.Nat
import RecordFlow.Proofs.Operator.Grouping
import RecordFlow.Regex.Engine

/-! # Groups as a partition

Groups divide the records that carry their key: each such record is in one group, and no
other record is in any. The groups have distinct labels and stand in the order in which
these first appear. A histogram has the sizes of the groups, which add up to the number of
the records and do not depend on their order.
-/

namespace RecordFlow

namespace Group

variable {key : String} {records records' : List Record}

/-- Groups that divide the records with a key by their labels. -/
structure Divide (key : String) (records : List Record) (groups : List Group) : Prop where
  /-- There is one group for each label, in the order in which labels first appear. -/
  labels : groups.map label = Group.labels key records
  distinct : (groups.map label).Nodup
  members : ∀ g ∈ groups, g.members = withLabel key records g.label
  members_ne_nil : ∀ g ∈ groups, g.members ≠ []
  existsUnique : ∀ record ∈ records, record.contains key → ∃! g, g ∈ groups ∧ record ∈ g.members
  /-- No other record is in a group, and none is lost or doubled. -/
  perm : (groups.flatMap Group.members).Perm (records.filter (·.contains key))

def withLabels (key : String) (records : List Record) (names : List String) : List Record :=
  records.filter fun record => (label? key record).any (· ∈ names)

theorem withLabels_labels (key : String) (records : List Record) :
    withLabels key records (labels key records) = records.filter (·.contains key) := by
  refine List.filter_congr fun record hrecord => ?_
  cases hvalue : record.get? key with
  | none => simp [label?, Dict.contains, hvalue]
  | some value =>
    simp [label?_of_some hvalue, label_mem_labels hrecord hvalue, Dict.contains, hvalue]

/-- The records with each of some labels, one label after another, are the records with one of them. -/
theorem perm_withLabels {names : List String} (hnodup : names.Nodup) (key : String) (records : List Record) :
    (names.flatMap (withLabel key records)).Perm (withLabels key records names) := by
  induction names with
  | nil => simp [withLabels]
  | cons name names ih =>
    obtain ⟨hhead, hnodup⟩ := List.nodup_cons.1 hnodup
    have hfirst : (withLabels key records (name :: names)).filter (label? key · = some name) =
        withLabel key records name := by
      rw [withLabels, List.filter_filter, withLabel]
      refine List.filter_congr fun record _ => ?_
      cases label? key record <;> grind
    have hrest : (withLabels key records (name :: names)).filter
        (fun record => !decide (label? key record = some name)) = withLabels key records names := by
      rw [withLabels, List.filter_filter, withLabels]
      refine List.filter_congr fun record _ => ?_
      cases label? key record <;> grind
    rw [List.flatMap_cons]
    refine ((ih hnodup).append_left _).trans ?_
    rw [← hfirst, ← hrest]
    exact List.filter_append_perm ..

theorem divide_ofRecords (key : String) (records : List Record) : Divide key records (ofRecords key records) := by
  have hlabels : (ofRecords key records).map label = labels key records := by
    rw [ofRecords_eq, List.map_map]
    exact List.map_id _
  have hmembers {g : Group} (hg : g ∈ ofRecords key records) :
      g.label ∈ labels key records ∧ g.members = withLabel key records g.label := by
    rw [ofRecords_eq] at hg
    obtain ⟨name, hname, rfl⟩ := List.mem_map.1 hg
    exact ⟨hname, rfl⟩
  constructor
  case labels => exact hlabels
  case distinct =>
    rw [hlabels]
    exact nodup_eraseDups _
  case members => exact fun g hg => (hmembers hg).2
  case members_ne_nil =>
    intro g hg
    rw [(hmembers hg).2]
    exact mem_labels_iff.1 (hmembers hg).1
  case existsUnique =>
    intro record hrecord hcontains
    obtain ⟨value, hvalue⟩ := Option.isSome_iff_exists.1 hcontains
    have hmem : record ∈ withLabel key records value.label :=
      mem_withLabel_iff.2 ⟨hrecord, label?_of_some hvalue⟩
    refine ⟨⟨value.label, withLabel key records value.label⟩, ⟨?_, hmem⟩, ?_⟩
    · rw [ofRecords_eq]
      exact List.mem_map_of_mem (label_mem_labels hrecord hvalue)
    · rintro ⟨name, members⟩ ⟨hg, hrecord⟩
      obtain rfl : members = withLabel key records name := (hmembers hg).2
      have heq := (label?_of_some hvalue).symm.trans (mem_withLabel_iff.1 hrecord).2
      rw [Option.some_inj.1 heq]
  case perm =>
    rw [ofRecords_eq, List.flatMap_map, ← withLabels_labels]
    exact perm_withLabels (nodup_eraseDups _) key records

variable {groups : List Group}

theorem Divide.sum_lengths (h : Divide key records groups) :
    (groups.map (·.members.length)).sum = (records.filter (·.contains key)).length := by
  rw [← h.perm.length_eq, List.length_flatMap]

theorem Divide.together_iff (h : Divide key records groups) {first second : Record} (hfirst : first ∈ records)
    (hsecond : second ∈ records) {x y : Json} (hx : first.get? key = some x) (hy : second.get? key = some y) :
    (∃ g ∈ groups, first ∈ g.members ∧ second ∈ g.members) ↔ x.label = y.label := by
  constructor
  · rintro ⟨g, hg, hmem, hmem'⟩
    rw [h.members g hg] at hmem hmem'
    have hxlabel := (label?_of_some hx).symm.trans (mem_withLabel_iff.1 hmem).2
    have hylabel := (label?_of_some hy).symm.trans (mem_withLabel_iff.1 hmem').2
    exact Option.some_inj.1 (hxlabel.trans hylabel.symm)
  · intro hlabel
    have hmem : first ∈ withLabel key records x.label := mem_withLabel_iff.2 ⟨hfirst, label?_of_some hx⟩
    have hmem' : second ∈ withLabel key records x.label :=
      mem_withLabel_iff.2 ⟨hsecond, hlabel ▸ label?_of_some hy⟩
    have hname : x.label ∈ groups.map label := h.labels ▸ label_mem_labels hfirst hx
    obtain ⟨g, hg, heq⟩ := List.mem_map.1 hname
    refine ⟨g, hg, ?_⟩
    rw [h.members g hg, heq]
    exact ⟨hmem, hmem'⟩

theorem get?_toRecord (title : String) (g : Group) (value : Json) (name : String) :
    (g.toRecord title value).get? name =
      List.lookup name [("contentType", .string (title ++ " " ++ g.label)), ("contentValue", value)] :=
  Dict.get?_ofList_of_nodup (by simp) name

/-- Records that stand for groups with distinct labels have distinct contents. -/
theorem Divide.nodup_contentType (h : Divide key records groups) (title : String) (value : Group → Json) :
    ((groups.map fun g => g.toRecord title (value g)).map (·.get? "contentType")).Nodup := by
  have hcontents : (groups.map fun g => g.toRecord title (value g)).map (·.get? "contentType") =
      (groups.map label).map fun label => some (.string (title ++ " " ++ label)) := by
    rw [List.map_map, List.map_map]
    exact List.map_congr_left fun g _ => g.get?_toRecord title (value g) "contentType"
  rw [hcontents]
  refine List.pairwise_map.2 (h.distinct.imp fun hne heq => hne ?_)
  exact (String.append_right_inj _).1 (Json.string.inj (Option.some_inj.1 heq))

theorem perm_labels (h : records'.Perm records) : (labels key records').Perm (labels key records) := by
  refine (List.perm_ext_iff_of_nodup (nodup_eraseDups _) (nodup_eraseDups _)).2 fun label => ?_
  rw [List.mem_eraseDups, List.mem_eraseDups, (h.filterMap _).mem_iff]

theorem perm_sizes (h : records'.Perm records) (key title : String) :
    ((ofRecords key records').map fun g => g.toRecord title (.ofNat g.members.length)).Perm
      ((ofRecords key records).map fun g => g.toRecord title (.ofNat g.members.length)) := by
  have hlength (label : String) :
      (withLabel key records' label).length = (withLabel key records label).length :=
    (h.filter _).length_eq
  rw [ofRecords_eq, ofRecords_eq, List.map_map, List.map_map]
  simp only [Function.comp_def, toRecord, hlength]
  exact (perm_labels h).map _

end Group

variable [Engine]

namespace Operator

variable {bound : Parameters} {overrides : Option Parameters} {a : Aggregate} {p : Resolved} {name : String}

theorem plan_aggregate_of_strings (hp : (Node.ofOperator .aggregate bound).resolve overrides = .ok p)
    (hname : p.string "operation" = .ok name) (haggregation : Aggregation.ofName? name = some a.aggregation)
    (htarget : p.string "target" = .ok a.target) (hgroupKey : p.string "groupKey" = .ok a.groupKey) :
    aggregate.plan bound overrides = .ok (.aggregate a) := by
  refine plan_aggregate_iff.2 ⟨p, hp, ?_⟩
  exact Aggregate.ofParameters_eq_ok_iff.2 ⟨⟨name, hname, haggregation⟩, htarget, hgroupKey⟩

end Operator

namespace Node

variable {bound : Parameters} {overrides : Option Parameters} {a : Aggregate}

theorem process_groups {title : String} (hplan : Operator.aggregate.plan bound overrides = .ok (.aggregate a))
    (htitle : a.aggregation.title? = some title) {r r' : Resource}
    (h : (ofOperator .aggregate bound).process overrides r = .ok r') : ∃ value : Group → Json,
      (∀ g ∈ Group.ofRecords a.groupedBy (r.recordsWith a.target),
        a.aggregation.summary.apply a.target g.members = .ok (value g)) ∧
      r' = { r with
        records := (Group.ofRecords a.groupedBy (r.recordsWith a.target)).map fun g =>
          g.toRecord title (value g) } := by
  rw [process_ofOperator, hplan] at h
  have happly : a.apply r = .ok r' := Operator.onData_eq_ok_iff.1 h
  rw [Aggregate.apply_of_title htitle] at happly
  obtain ⟨records, hsummary, rfl⟩ := Literal.map_eq_ok happly
  obtain ⟨value, hvalue, rfl⟩ := Group.exists_of_summarize_ok hsummary
  exact ⟨value, hvalue, rfl⟩

theorem process_histogram (hplan : Operator.aggregate.plan bound overrides = .ok (.aggregate a))
    (ha : a.aggregation = .histogram) (r : Resource) :
    (ofOperator .aggregate bound).process overrides r =
      .ok { r with
        records := (Group.ofRecords a.target (r.recordsWith a.target)).map fun g =>
          g.toRecord "frequency" (.ofNat g.members.length) } := by
  have hsummary : Group.summarize "frequency" (Summary.apply .count a.target)
      (Group.ofRecords a.target (r.recordsWith a.target)) = .ok _ :=
    Group.summarize_of_forall_ok "frequency" (fun g => .ofNat g.members.length) fun _ _ => rfl
  obtain ⟨aggregation, target, groupKey⟩ := a
  obtain rfl : aggregation = .histogram := ha
  rw [process_ofOperator, hplan]
  show Operator.aggregate.onData ((Group.summarize _ _ _).map _) = _
  rw [hsummary]
  rfl

theorem process_count (hplan : Operator.aggregate.plan bound overrides = .ok (.aggregate a)) (r : Resource) :
    (ofOperator .aggregate bound).process (Parameters.withOperation overrides "count") r =
      .ok (Aggregate.replaceBy r "count" (.ofNat (r.recordsWith a.target).length)) := by
  have hcount := Operator.plan_withOperation hplan .count
  rw [process_ofOperator, show "count" = Summary.count.key from rfl, hcount]
  rfl

/-- A grouped call divides the records that have both the target and the key of the groups, and if it
succeeds, it leaves one record for each group, with the group's own summary and a content type of its own.
A histogram succeeds on any records once its parameters are strings. It leaves positive numbers that add
up to what a call that counts writes, and the same records for the same input in any order. -/
theorem process_divided {p : Resolved} {name title : String}
    (hp : (ofOperator .aggregate bound).resolve overrides = .ok p) (hname : p.string "operation" = .ok name)
    (haggregation : Aggregation.ofName? name = some a.aggregation) (htarget : p.string "target" = .ok a.target)
    (hgroupKey : p.string "groupKey" = .ok a.groupKey) (htitle : a.aggregation.title? = some title)
    (r : Resource) :
    let n := ofOperator .aggregate bound
    ∃ groups, Group.Divide a.groupedBy (r.recordsWith a.target) groups ∧
      (∀ r', n.process overrides r = .ok r' → (r'.records.map (·.get? "contentType")).Nodup ∧
        ∃ value : Group → Json, (∀ g ∈ groups, a.aggregation.summary.apply a.target g.members = .ok (value g)) ∧
          r' = { r with records := groups.map fun g => g.toRecord title (value g) }) ∧
      (a.aggregation = .histogram → ∃ r', n.process overrides r = .ok r' ∧
        (∀ g ∈ groups, 0 < g.members.length) ∧
        r' = { r with records := groups.map fun g => g.toRecord title (.ofNat g.members.length) } ∧
        (∃ total, n.process (Parameters.withOperation overrides "count") r = .ok total ∧
          total.metadata? "count" = some (.ofNat (groups.map (·.members.length)).sum)) ∧
        ∀ r₂, r₂.records.Perm r.records → ∃ r₂', n.process overrides r₂ = .ok r₂' ∧
          r₂'.records.Perm r'.records) := by
  intro n
  have hplan := Operator.plan_aggregate_of_strings hp hname haggregation htarget hgroupKey
  have hdivide := Group.divide_ofRecords a.groupedBy (r.recordsWith a.target)
  refine ⟨_, hdivide, ?_, ?_⟩
  · intro r' h
    obtain ⟨value, hvalue, rfl⟩ := process_groups hplan htitle h
    exact ⟨hdivide.nodup_contentType title value, value, hvalue, rfl⟩
  · intro ha
    have hkey : a.groupedBy = a.target := if_pos ha
    obtain rfl : "frequency" = title := by
      rw [ha] at htitle
      exact Option.some_inj.1 htitle
    refine ⟨_, process_histogram hplan ha r, ?_, ?_, ?_, ?_⟩
    · intro g hg
      exact List.length_pos_iff.2 (hdivide.members_ne_nil g hg)
    · rw [hkey]
    · refine ⟨_, process_count hplan r, ?_⟩
      -- the records with the target are those among them that have the key
      have htwice : (r.recordsWith a.target).filter (·.contains a.target) = r.recordsWith a.target := by
        rw [Resource.recordsWith, List.filter_filter]
        simp only [Bool.and_self]
      rw [hdivide.sum_lengths, hkey, htwice]
      simp [Resource.metadata?, Aggregate.replaceBy, Dict.get?_insert]
    · intro r₂ hperm
      refine ⟨_, process_histogram hplan ha r₂, ?_⟩
      exact Group.perm_sizes (hperm.filter _) a.target "frequency"

end Node

end RecordFlow

namespace RecordFlow.Node

open scoped Regex

/-- The number one and the string of its digit have one label. A record without the target is in no group, and
the groups of the records in reverse order are the same. -/
theorem process_divided_in_turns :
    let bound : Parameters := .ofList [("operation", .string "histogramFrequency"), ("target", .string "at")]
    let p : Resolved := ⟨"Aggregate", .ofList [("target", .string "at"),
      ("operation", .string "histogramFrequency"), ("groupKey", .string "contentType")]⟩
    let a : Aggregate := ⟨.histogram, "at", "contentType"⟩
    let n := ofOperator .aggregate bound
    let record (value : Json) : Record := .ofList [("at", value)]
    let records := [record (.string "1"), record (.string "b"), record (.ofNat 1), .ofList [("b", .null)],
      record (.string "b")]
    (n.resolve none = .ok p ∧ p.string "operation" = .ok "histogramFrequency" ∧
      Aggregation.ofName? "histogramFrequency" = some a.aggregation ∧ p.string "target" = .ok a.target ∧
      p.string "groupKey" = .ok a.groupKey ∧ a.aggregation.title? = some "frequency") ∧
    ∃ groups r' r'', Group.Divide "at" (Resource.recordsWith ⟨"event", none, records⟩ "at") groups ∧
      groups.map Group.label = ["1", "b"] ∧ (groups.map (·.members.length)).sum = 4 ∧
      n.process none ⟨"event", none, records⟩ = .ok r' ∧
      n.process none ⟨"event", none, records.reverse⟩ = .ok r'' ∧ r''.records.Perm r'.records := by
  intro bound p a n record records
  have hp : n.resolve none = .ok p := by rfl
  have hname : p.string "operation" = .ok "histogramFrequency" := by rfl
  have haggregation : Aggregation.ofName? "histogramFrequency" = some a.aggregation := by rfl
  have htarget : p.string "target" = .ok a.target := by rfl
  have hgroupKey : p.string "groupKey" = .ok a.groupKey := by rfl
  have htitle : a.aggregation.title? = some "frequency" := by rfl
  obtain ⟨groups, hdivide, -, hhistogram⟩ :=
    process_divided hp hname haggregation htarget hgroupKey htitle ⟨"event", none, records⟩
  obtain ⟨r', hprocess, -, -, -, hperm⟩ := hhistogram rfl
  obtain ⟨r'', hprocess', hperm⟩ := hperm ⟨"event", none, records.reverse⟩ (List.reverse_perm records)
  refine ⟨⟨hp, hname, haggregation, htarget, hgroupKey, htitle⟩, groups, r', r'', hdivide, ?_, ?_, hprocess,
    hprocess', hperm⟩
  · rw [hdivide.labels]
    decide +kernel
  · rw [hdivide.sum_lengths]
    decide +kernel

end RecordFlow.Node
