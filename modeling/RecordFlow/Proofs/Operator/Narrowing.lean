import Mathlib.Data.List.Induction
import RecordFlow.Literal.Reader
import RecordFlow.Proofs.Dict
import RecordFlow.Proofs.Operator.Action

/-! # What operators leave alone

No operator adds records or changes the type of a resource. The metadata is changed
by aggregations that find a single value, and by them only under the keys of
summaries. Grouping adds no records, as each group has a record that came first.
-/

namespace RecordFlow

variable {records records' : List Record}

namespace Fuzz

theorem map_fst_numbers {target : String} {fault : Json.Kind → DataFault}
    {found : List (Record × Binary64)} (h : numbers target fault records = .ok found) :
    found.map Prod.fst = records.filter (·.contains target) := by
  induction records generalizing found with
  | nil =>
    cases h
    rfl
  | cons record records ih =>
    unfold numbers at h
    split at h
    · next hget => rw [ih h, List.filter_cons_of_neg (by simp [Dict.contains, hget])]
    · next n hget =>
      obtain ⟨rest, hrest, rfl⟩ := Literal.map_eq_ok h
      rw [List.map_cons, ih hrest, List.filter_cons_of_pos (by simp [Dict.contains, hget])]
    · cases h

theorem length_numbers_le {target : String} {fault : Json.Kind → DataFault}
    {found : List (Record × Binary64)} (h : numbers target fault records = .ok found) :
    found.length ≤ records.length := by
  rw [← List.length_map Prod.fst, map_fst_numbers h]
  exact List.length_filter_le _ records

theorem length_apply_le {f : Fuzz} (h : f.apply records = .ok records') :
    records'.length ≤ records.length := by
  unfold apply at h
  split at h
  · obtain ⟨found, hfound, rfl⟩ := Literal.map_eq_ok h
    rw [List.length_map]
    exact length_numbers_le hfound
  · unfold applyPercent at h
    split at h
    · cases h
    · next found hfound =>
      split at h
      · cases h
        exact Nat.zero_le _
      · split at h
        · cases h
        · cases h
          rw [List.length_map]
          exact length_numbers_le hfound

end Fuzz

namespace Group

variable {key : String} {record : Record}

theorem length_add_le (label : String) (record : Record) (gs : List Group) :
    (add label record gs).length ≤ gs.length + 1 := by
  induction gs with
  | nil => exact Nat.le_refl 1
  | cons g gs ih =>
    unfold add
    split
    · exact Nat.le_succ _
    · exact Nat.succ_le_succ ih

theorem ofRecords_concat_of_none (h : record.get? key = none) (records : List Record) :
    ofRecords key (records ++ [record]) = ofRecords key records := by
  rw [ofRecords, List.foldl_append, List.foldl_cons, h]
  rfl

theorem ofRecords_concat_of_some {value : Json} (h : record.get? key = some value)
    (records : List Record) :
    ofRecords key (records ++ [record]) = add value.label record (ofRecords key records) := by
  rw [ofRecords, List.foldl_append, List.foldl_cons, h]
  rfl

theorem length_ofRecords_le (key : String) (records : List Record) :
    (ofRecords key records).length ≤ records.length := by
  induction records using List.reverseRecOn with
  | nil => exact Nat.le_refl 0
  | append_singleton records record ih =>
    rw [List.length_append]
    cases h : record.get? key with
    | none =>
      rw [ofRecords_concat_of_none h]
      exact Nat.le_succ_of_le ih
    | some value =>
      rw [ofRecords_concat_of_some h]
      exact Nat.le_trans (length_add_le value.label record _) (Nat.succ_le_succ ih)

theorem length_summarize {title : String} {summary : List Record → Except DataFault Json}
    {gs : List Group} (h : summarize title summary gs = .ok records) : records.length = gs.length := by
  induction gs generalizing records with
  | nil =>
    cases h
    rfl
  | cons g gs ih =>
    unfold summarize at h
    split at h
    · cases h
    · obtain ⟨rest, hrest, rfl⟩ := Literal.map_eq_ok h
      rw [List.length_cons, ih hrest, List.length_cons]

end Group

variable {r r₁ r' : Resource}

theorem Aggregate.apply_eq_ok {a : Aggregate} (h : a.apply r = .ok r') :
    (∃ s value, a.aggregation = .scalar s ∧ r' = replaceBy r s.key value) ∨
      (∀ s, a.aggregation ≠ .scalar s) ∧ ∃ records, records.length ≤ r.size ∧ r' = { r with records } := by
  have hgrouped {key title : String} {summary : List Record → Except DataFault Json}
      (h : (Group.summarize title summary (Group.ofRecords key (r.recordsWith a.target))).map
        (fun records => { r with records }) = .ok r') :
      ∃ records, records.length ≤ r.size ∧ r' = { r with records } := by
    obtain ⟨records, hsummarize, rfl⟩ := Literal.map_eq_ok h
    refine ⟨records, ?_, rfl⟩
    calc records.length
      _ = (Group.ofRecords key (r.recordsWith a.target)).length := Group.length_summarize hsummarize
      _ ≤ (r.recordsWith a.target).length := Group.length_ofRecords_le _ _
      _ ≤ r.size := List.length_filter_le _ _
  unfold apply at h
  cases haggregation : a.aggregation with
  | scalar s =>
    rw [haggregation] at h
    obtain ⟨value, -, rfl⟩ := Literal.map_eq_ok h
    exact .inl ⟨s, value, rfl, rfl⟩
  | groupSum =>
    rw [haggregation] at h
    exact .inr ⟨nofun, hgrouped h⟩
  | groupAverage =>
    rw [haggregation] at h
    exact .inr ⟨nofun, hgrouped h⟩
  | histogram =>
    rw [haggregation] at h
    exact .inr ⟨nofun, hgrouped h⟩

def Resource.metadata? (r : Resource) (key : String) : Option Json := r.metadata.bind (·.get? key)

/-- What is common to a resource and what operators make of it. Whether a summary was written into the
metadata decides whether the metadata is as before. -/
structure Narrows (summarized : Prop) (r r' : Resource) : Prop where
  size_le : r'.size ≤ r.size
  resourceType : r'.resourceType = r.resourceType
  metadata_of_not : ¬ summarized → r'.metadata = r.metadata
  isSome_metadata : summarized → r'.metadata.isSome
  /-- A key that is not that of a summary has the value that it had, or none if it had none. -/
  metadata? : ∀ key, (∀ s : Summary, key ≠ s.key) → r'.metadata? key = r.metadata? key

namespace Narrows

theorem refl (r : Resource) : Narrows False r r where
  size_le := Nat.le_refl _
  resourceType := rfl
  metadata_of_not _ := rfl
  isSome_metadata h := h.elim
  metadata? _ _ := rfl

theorem of_records {records : List Record} (h : records.length ≤ r.size) :
    Narrows False r { r with records } where
  size_le := h
  resourceType := rfl
  metadata_of_not _ := rfl
  isSome_metadata h := h.elim
  metadata? _ _ := rfl

theorem replaceBy (r : Resource) (s : Summary) (value : Json) :
    Narrows True r (Aggregate.replaceBy r s.key value) where
  size_le := Nat.zero_le _
  resourceType := rfl
  metadata_of_not h := (h trivial).elim
  isSome_metadata _ := rfl
  metadata? key hkey := by
    show ((r.metadata.getD .empty).insert s.key value).get? key = r.metadata.bind (·.get? key)
    rw [Dict.get?_insert, if_neg (hkey s)]
    cases r.metadata <;> rfl

theorem congr {a b : Prop} (h : Narrows a r r') (hab : b ↔ a) : Narrows b r r' := by
  rwa [hab]

theorem trans {a b : Prop} (h₁ : Narrows a r r₁) (h₂ : Narrows b r₁ r') : Narrows (a ∨ b) r r' where
  size_le := Nat.le_trans h₂.size_le h₁.size_le
  resourceType := h₂.resourceType.trans h₁.resourceType
  metadata_of_not h := (h₂.metadata_of_not fun hb => h (.inr hb)).trans
    (h₁.metadata_of_not fun ha => h (.inl ha))
  isSome_metadata h := by
    by_cases hb : b
    · exact h₂.isSome_metadata hb
    · rw [h₂.metadata_of_not hb]
      exact h₁.isSome_metadata (h.resolve_right hb)
  metadata? key hkey := (h₂.metadata? key hkey).trans (h₁.metadata? key hkey)

end Narrows

variable [Engine]

def Action.Summarizes : Action → Prop
  | aggregate a => ∃ s, a.aggregation = .scalar s
  | _ => False

theorem Action.narrows {a : Action} (h : a.apply r = .ok r') : Narrows a.Summarizes r r' := by
  cases a with
  | pass =>
    cases h
    exact .refl r
  | limit count =>
    cases h
    exact .of_records (List.length_take_le' count r.records)
  | filter f =>
    cases h
    exact .of_records (List.length_filter_le f.keeps r.records)
  | sort s =>
    cases h
    exact .of_records (Nat.le_of_eq (List.length_mergeSort r.records))
  | select fields =>
    cases h
    exact .of_records (Nat.le_of_eq (List.length_map _))
  | fuzz f =>
    obtain ⟨records, hrecords, rfl⟩ := Literal.map_eq_ok (Operator.onData_eq_ok_iff.1 h)
    exact .of_records (Fuzz.length_apply_le hrecords)
  | aggregate a =>
    rcases a.apply_eq_ok (Operator.onData_eq_ok_iff.1 h) with
      ⟨s, value, hscalar, rfl⟩ | ⟨hgrouped, records, hlength, rfl⟩
    · exact (Narrows.replaceBy r s value).congr (iff_true_intro ⟨s, hscalar⟩)
    · have hnot : ¬ (Action.aggregate a).Summarizes := fun ⟨s, hscalar⟩ => hgrouped s hscalar
      exact (Narrows.of_records hlength).congr (iff_false_intro hnot)
  | spoof key value =>
    cases h
    exact .of_records (Nat.le_of_eq (List.length_map _))

namespace Operator

/-- Whether an operator writes a summary into the metadata: it does so if it aggregates, and the name
of the operation is the key of a summary. -/
def Summarizes (o : Operator) (p : Resolved) : Prop :=
  o = aggregate ∧ ∃ s : Summary, p.string "operation" = .ok s.key

theorem not_summarizes {o : Operator} {p : Resolved} (h : o ≠ aggregate) : ¬ o.Summarizes p :=
  fun hs => h hs.1

theorem summarizes_iff_of_read {o : Operator} {p : Resolved} {a : Action} (h : o.read p = .ok a) :
    o.Summarizes p ↔ a.Summarizes := by
  cases o with
  | aggregate =>
    obtain ⟨b, hb, rfl⟩ := Literal.map_eq_ok h
    obtain ⟨name, hname, hof⟩ := Aggregate.aggregation_of_ofParameters hb
    rw [Summarizes, Action.Summarizes, hname, and_iff_right rfl]
    refine exists_congr fun s => ?_
    rw [Except.ok.injEq, ← Aggregation.ofName?_eq_scalar_iff, hof, Option.some.injEq]
  | spoof =>
    refine iff_of_false (not_summarizes (by decide)) ?_
    obtain ⟨key, -, h⟩ := bind_eq_ok_iff.1 h
    obtain ⟨value, -, h⟩ := bind_eq_ok_iff.1 h
    cases h
    exact id
  | input | limit | filter | sort | select | fuzz =>
    obtain ⟨b, -, rfl⟩ := Literal.map_eq_ok h
    exact iff_of_false (not_summarizes (by decide)) id

theorem narrows {o : Operator} {p : Resolved} (h : o.transform p r = .ok r') :
    Narrows (o.Summarizes p) r r' := by
  obtain ⟨a, hread, happly⟩ := transform_eq_ok_iff.1 h
  exact (a.narrows happly).congr (summarizes_iff_of_read hread)

end Operator

end RecordFlow
