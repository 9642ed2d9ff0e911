import Mathlib.Data.List.Basic
import RecordFlow.Proofs.Operator.Failure
import RecordFlow.Proofs.Operator.SortOrder
import RecordFlow.Regex.Engine

/-! # Stable sorting

A sort keeps the order of the records that it does not tell apart, and this decides what
the sorted list is: two lists in order that have the same records in each group of ties, in
the same order, are equal. So records may be dropped before or after they are sorted, and of
two sorts one after another the first one decides where the second one leaves ties.
-/

namespace RecordFlow

/-- How a value may stand to one after it. -/
def Direction.Allows : Direction → Ordering → Prop
  | ascending, o => o ≠ .gt
  | descending, o => o ≠ .lt

namespace SortOrder

variable {s : SortOrder} {records sorted : List Record} {a b : Record} {x y z : Json}

def ties (s : SortOrder) (a b : Record) : Bool := s.compare a b == .eq

theorem ties_iff : s.ties a b ↔ s.compare a b = .eq := beq_iff_eq

theorem ties_self (s : SortOrder) (a : Record) : s.ties a a := ties_iff.2 Std.ReflCmp.compare_self

theorem precedes_self (s : SortOrder) (a : Record) : s.precedes a a := by
  rw [precedes_iff, ties_iff.1 (s.ties_self a)]
  rfl

theorem ties_of_precedes (hab : s.precedes a b) (hba : s.precedes b a) : s.ties a b := by
  unfold ties
  rw [precedes_iff, compare_eq_swap] at hba
  rw [precedes_iff] at hab
  cases hcompare : s.compare a b <;> simp [hcompare] at hab hba ⊢

theorem filter_apply_of_precedes {p : Record → Bool} (hp : ∀ a b, p a → p b → s.precedes a b)
    (records : List Record) : (s.apply records).filter p = records.filter p := by
  have hordered : (records.filter p).Pairwise fun a b => s.precedes a b := by
    refine List.Pairwise.imp_of_mem (fun {a b} ha hb _ => ?_) (List.pairwise_of_forall fun _ _ => trivial)
    exact hp a b (List.mem_filter.1 ha).2 (List.mem_filter.1 hb).2
  have htwice : (records.filter p).filter p = records.filter p := by
    rw [List.filter_filter]
    simp only [Bool.and_self]
  have hsub : (records.filter p).Sublist ((s.apply records).filter p) := by
    have h := (List.sublist_mergeSort precedes_trans precedes_total hordered List.filter_sublist).filter p
    rwa [htwice] at h
  exact (hsub.eq_of_length ((List.mergeSort_perm records _).filter p).length_eq.symm).symm

theorem precedes_head (h : (a :: records).Pairwise fun a b => s.precedes a b) (hb : b ∈ a :: records) :
    s.precedes a b := by
  rcases List.mem_cons.1 hb with rfl | hb
  · exact s.precedes_self b
  · exact (List.pairwise_cons.1 h).1 b hb

theorem mem_of_ties (hties : ∀ a, records.filter (s.ties a) = sorted.filter (s.ties a)) (ha : a ∈ records) :
    a ∈ sorted := by
  have hgroup : a ∈ records.filter (s.ties a) := List.mem_filter.2 ⟨ha, s.ties_self a⟩
  rw [hties] at hgroup
  exact (List.mem_filter.1 hgroup).1

/-- A list in order is known from its groups of ties. -/
theorem eq_of_ties (hsorted : sorted.Pairwise fun a b => s.precedes a b)
    (hrecords : records.Pairwise fun a b => s.precedes a b)
    (hties : ∀ a, sorted.filter (s.ties a) = records.filter (s.ties a)) : sorted = records := by
  induction sorted generalizing records with
  | nil =>
    cases records with
    | nil => rfl
    | cons b records => cases mem_of_ties (fun a => (hties a).symm) (List.mem_cons_self : b ∈ b :: records)
  | cons a sorted ih =>
    cases records with
    | nil => cases mem_of_ties hties (List.mem_cons_self : a ∈ a :: sorted)
    | cons b records =>
      -- each head comes first in its own list, so the heads are tied and lead the same group
      have hab := precedes_head hsorted (mem_of_ties (fun a => (hties a).symm) List.mem_cons_self)
      have hba := precedes_head hrecords (mem_of_ties hties List.mem_cons_self)
      have hgroup := hties a
      rw [List.filter_cons_of_pos (s.ties_self a),
        List.filter_cons_of_pos (ties_of_precedes hab hba)] at hgroup
      obtain ⟨rfl, -⟩ := List.cons.inj hgroup
      refine congrArg (a :: ·) (ih hsorted.of_cons hrecords.of_cons fun c => ?_)
      have hc := hties c
      simp only [List.filter_cons] at hc
      split at hc
      · exact (List.cons.inj hc).2
      · exact hc

theorem precedes_of_ties {c : Record} (ha : s.ties c a) (hb : s.ties c b) : s.precedes a b := by
  have hac : s.compare a c = .eq := Std.OrientedCmp.eq_symm (ties_iff.1 ha)
  have hab : s.compare a b = .eq := Std.TransCmp.eq_trans hac (ties_iff.1 hb)
  rw [precedes_iff, hab]
  rfl

theorem filter_ties_apply (s : SortOrder) (a : Record) (records : List Record) :
    (s.apply records).filter (s.ties a) = records.filter (s.ties a) :=
  filter_apply_of_precedes (fun _ _ => precedes_of_ties) records

/-- Records may be dropped before or after they are sorted. -/
theorem filter_apply (s : SortOrder) (p : Record → Bool) (records : List Record) :
    (s.apply records).filter p = s.apply (records.filter p) := by
  refine eq_of_ties ((s.pairwise_apply records).filter p) (s.pairwise_apply (records.filter p)) fun a => ?_
  calc ((s.apply records).filter p).filter (s.ties a)
    _ = ((s.apply records).filter (s.ties a)).filter p := List.filter_comm ..
    _ = (records.filter (s.ties a)).filter p := by rw [filter_ties_apply]
    _ = (records.filter p).filter (s.ties a) := List.filter_comm ..
    _ = (s.apply (records.filter p)).filter (s.ties a) := (filter_ties_apply ..).symm

def alike (s : SortOrder) (x : Json) (record : Record) : Bool :=
  match record.get? s.key with
  | some y => x.totalOrder y == .eq
  | none => false

def lacks (s : SortOrder) (record : Record) : Bool := !record.contains s.key

structure InOrder (s : SortOrder) (records : List Record) : Prop where
  /-- A record without the key is followed by such records only. -/
  lacking_last : records.Pairwise fun a b => s.lacks a → s.lacks b
  by_value : records.Pairwise fun a b =>
    ∀ x y, a.get? s.key = some x → b.get? s.key = some y → s.direction.Allows (x.totalOrder y)

/-- Records put in order, without a change among those that are not told apart. -/
structure Arranges (s : SortOrder) (before after : List Record) : Prop where
  perm : after.Perm before
  inOrder : s.InOrder after
  alike : ∀ x, after.filter (s.alike x) = before.filter (s.alike x)
  lacking : after.filter s.lacks = before.filter s.lacks

theorem alike_iff : s.alike x a ↔ ∃ y, a.get? s.key = some y ∧ x.totalOrder y = .eq := by
  unfold alike
  cases a.get? s.key <;> simp

theorem lacks_iff : s.lacks a ↔ a.get? s.key = none := by
  simp [lacks, Dict.contains]

theorem allows_iff : s.direction.Allows (x.totalOrder y) ↔ (s.compareKeys x y).isLE := by
  unfold compareKeys
  cases s.direction <;> cases x.totalOrder y <;> simp [Direction.Allows]

theorem inOrder_of_pairwise (h : records.Pairwise fun a b => s.precedes a b) : s.InOrder records where
  lacking_last := h.imp fun {a b} hab ha => by
    rw [lacks_iff] at ha ⊢
    cases hb : b.get? s.key with
    | none => rfl
    | some y => simp [precedes, compare, ha, hb] at hab
  by_value := h.imp fun {a b} hab x y ha hb => by
    rw [precedes_iff, compare_of_some ha hb] at hab
    exact allows_iff.2 hab

theorem precedes_of_alike (ha : s.alike x a) (hb : s.alike x b) : s.precedes a b := by
  obtain ⟨y, hy, hxy⟩ := alike_iff.1 ha
  obtain ⟨z, hz, hxz⟩ := alike_iff.1 hb
  have hyx : y.totalOrder x = .eq := Std.OrientedCmp.eq_symm hxy
  have hyz : y.totalOrder z = .eq := Std.TransCmp.eq_trans hyx hxz
  rw [precedes_iff, compare_of_some hy hz, ← allows_iff, hyz]
  cases s.direction <;> exact Ordering.noConfusion

theorem precedes_of_lacks (ha : s.lacks a) (hb : s.lacks b) : s.precedes a b := by
  rw [lacks_iff] at ha hb
  simp [precedes, compare, ha, hb]

theorem arranges_apply (s : SortOrder) (records : List Record) : s.Arranges records (s.apply records) where
  perm := List.mergeSort_perm records _
  inOrder := inOrder_of_pairwise (s.pairwise_apply records)
  alike _ := filter_apply_of_precedes (fun _ _ => precedes_of_alike) records
  lacking := filter_apply_of_precedes (fun _ _ => precedes_of_lacks) records

/-- Of two sorts the first one decides where the second one leaves ties. -/
theorem arranges_filter_apply {p : Record → Bool} (hp : ∀ a b, p a → p b → s.precedes a b) (first : SortOrder)
    (records : List Record) : first.Arranges (records.filter p) ((s.apply (first.apply records)).filter p) := by
  rw [filter_apply_of_precedes hp, filter_apply]
  exact first.arranges_apply (records.filter p)

end SortOrder

def Direction.name : Direction → String
  | ascending => "ascending"
  | descending => "descending"

variable [Engine]

namespace SortOrder

variable {s : SortOrder} {p : Resolved}

def toParameters (s : SortOrder) : Parameters :=
  .ofList [("sortKey", .string s.key), ("order", .string s.direction.name)]

theorem ofParameters_eq_ok_iff : ofParameters p = .ok s ↔ p.string "sortKey" = .ok s.key ∧
    ∃ name, p.string "order" = .ok name ∧ Direction.ofName? name = some s.direction := by
  constructor
  · intro h
    obtain ⟨key, hkey, h⟩ := bind_eq_ok_iff.1 h
    obtain ⟨direction, hdirection, h⟩ := bind_eq_ok_iff.1 h
    cases h
    exact ⟨hkey, Resolved.choice_eq_ok_iff.1 hdirection⟩
  · rintro ⟨hkey, hdirection⟩
    refine bind_eq_ok_iff.2 ⟨s.key, hkey, ?_⟩
    exact bind_eq_ok_iff.2 ⟨s.direction, Resolved.choice_eq_ok_iff.2 hdirection, rfl⟩

theorem get?_toParameters (s : SortOrder) (name : String) : s.toParameters.get? name =
    List.lookup name [("sortKey", .string s.key), ("order", .string s.direction.name)] :=
  Dict.get?_ofList_of_nodup (by simp) name

theorem ofSchema_toParameters (s : SortOrder) :
    Resolved.ofSchema Operator.sort.name Operator.sort.schema s.toParameters none =
      .ok ⟨Operator.sort.name, s.toParameters⟩ :=
  Resolved.ofSchema_ofList rfl _

end SortOrder

namespace Operator

variable {bound : Parameters} {overrides : Option Parameters} {s : SortOrder}

theorem plan_sort_iff : sort.plan bound overrides = .ok (.sort s) ↔
    ∃ p, Resolved.ofSchema sort.name sort.schema bound overrides = .ok p ∧ SortOrder.ofParameters p = .ok s :=
  plan_eq_ok_iff (fun _ => rfl) fun _ => Action.sort.inj

theorem plan_toParameters (s : SortOrder) : sort.plan s.toParameters none = .ok (.sort s) := by
  refine plan_sort_iff.2 ⟨_, s.ofSchema_toParameters, SortOrder.ofParameters_eq_ok_iff.2 ⟨?_, ?_⟩⟩
  · exact Resolved.string_eq_ok_iff.2 (s.get?_toParameters "sortKey")
  · refine ⟨s.direction.name, Resolved.string_eq_ok_iff.2 (s.get?_toParameters "order"), ?_⟩
    cases s.direction <;> rfl

end Operator

namespace Node

variable {bound : Parameters} {overrides : Option Parameters} {s : SortOrder}

theorem process_of_plan_sort (h : Operator.sort.plan bound overrides = .ok (.sort s)) (r : Resource) :
    (ofOperator .sort bound).process overrides r = .ok { r with records := s.apply r.records } := by
  rw [process_ofOperator, h]
  rfl

/-- A sort may be asked for by any key in either direction. It succeeds and puts the records in order: those
with the key come first, by their values, and records that are not told apart keep their order. A second
sort puts them in its own order, and leaves those that it does not tell apart in the order of the first. -/
theorem process_sort (s : SortOrder) : Operator.sort.plan s.toParameters none = .ok (.sort s) ∧
    ∀ bound overrides, Operator.sort.plan bound overrides = .ok (.sort s) → ∀ r, ∃ records,
      (ofOperator .sort bound).process overrides r = .ok { r with records } ∧ s.Arranges r.records records ∧
      ∀ bound' overrides' s', Operator.sort.plan bound' overrides' = .ok (.sort s') → ∃ records',
        (ofOperator .sort bound').process overrides' { r with records } = .ok { r with records := records' } ∧
        records'.Perm r.records ∧ s'.InOrder records' ∧
        (∀ x, s.Arranges (r.records.filter (s'.alike x)) (records'.filter (s'.alike x))) ∧
        s.Arranges (r.records.filter s'.lacks) (records'.filter s'.lacks) := by
  refine ⟨Operator.plan_toParameters s, fun bound overrides hplan r => ?_⟩
  refine ⟨s.apply r.records, process_of_plan_sort hplan r, s.arranges_apply r.records, ?_⟩
  intro bound' overrides' s' hplan'
  have hsecond := s'.arranges_apply (s.apply r.records)
  refine ⟨s'.apply (s.apply r.records), process_of_plan_sort hplan' _, ?_, hsecond.inOrder, ?_, ?_⟩
  · exact hsecond.perm.trans (s.arranges_apply r.records).perm
  · intro x
    exact SortOrder.arranges_filter_apply (fun _ _ => SortOrder.precedes_of_alike) s r.records
  · exact SortOrder.arranges_filter_apply (fun _ _ => SortOrder.precedes_of_lacks) s r.records

end Node

end RecordFlow

namespace RecordFlow.Node

open scoped Regex

/-- Records are sorted by their names downwards, and then by their levels. Two of them have equal levels of
different forms, and two have no level. -/
theorem process_sort_by_level :
    let byName : SortOrder := ⟨"name", .descending⟩
    let byLevel : SortOrder := ⟨"level", .ascending⟩
    let two := Json.ofBinary64 (.ofNat 2)
    let r : Resource := ⟨"event", none, [.ofList [("level", two), ("name", .string "a")],
      .ofList [("name", .string "c")], .ofList [("level", .string "high")],
      .ofList [("level", .ofNat 2), ("name", .string "b")], .empty]⟩
    (Operator.sort.plan byName.toParameters none = .ok (.sort byName) ∧
      Operator.sort.plan byLevel.toParameters none = .ok (.sort byLevel)) ∧
    ∃ records records', (ofOperator .sort byName.toParameters).process none r = .ok { r with records } ∧
      (ofOperator .sort byLevel.toParameters).process none { r with records } =
        .ok { r with records := records' } ∧
      byLevel.InOrder records' ∧
      byName.Arranges (r.records.filter (byLevel.alike two)) (records'.filter (byLevel.alike two)) ∧
      (r.records.filter (byLevel.alike two)).length = 2 := by
  intro byName byLevel two r
  obtain ⟨hname, hsorted⟩ := process_sort byName
  obtain ⟨hlevel, -⟩ := process_sort byLevel
  obtain ⟨records, hrecords, -, hsecond⟩ := hsorted _ none hname r
  obtain ⟨records', hrecords', -, horder, halike, -⟩ := hsecond _ none byLevel hlevel
  exact ⟨⟨hname, hlevel⟩, records, records', hrecords, hrecords', horder, halike two, by decide +kernel⟩

end RecordFlow.Node
