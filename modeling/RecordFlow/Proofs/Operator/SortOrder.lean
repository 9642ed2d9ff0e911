import RecordFlow.Operator.SortOrder
import RecordFlow.Proofs.Json.Equality
import RecordFlow.Regex.Engine

/-! # Sorted records

The order of records is a transitive comparison in both directions, with the records
without the field at the end. Sorting puts records in order, and records in order are
left as they are. The order and the equality of values go together.
-/

namespace RecordFlow

section

namespace SortOrder

variable {s : SortOrder}

theorem compareKeys_ascending {key : String} : compareKeys ⟨key, .ascending⟩ = Json.totalOrder := rfl

theorem compareKeys_descending {key : String} :
    compareKeys ⟨key, .descending⟩ = fun a b => Json.totalOrder b a := by
  funext a b
  exact (Std.OrientedCmp.eq_swap : Json.totalOrder b a = (Json.totalOrder a b).swap).symm

instance (s : SortOrder) : Std.TransCmp s.compareKeys := by
  obtain ⟨key, direction⟩ := s
  cases direction with
  | ascending =>
    rw [compareKeys_ascending]
    infer_instance
  | descending =>
    rw [compareKeys_descending]
    exact Std.TransCmp.opposite

variable {a b c : Record} {x y z : Json}

theorem compare_of_some (ha : a.get? s.key = some x) (hb : b.get? s.key = some y) :
    s.compare a b = s.compareKeys x y := by
  simp only [compare, ha, hb]

theorem compare_eq_swap (a b : Record) : s.compare a b = (s.compare b a).swap := by
  cases ha : a.get? s.key with
  | none => cases hb : b.get? s.key <;> simp [compare, ha, hb]
  | some x =>
    cases hb : b.get? s.key with
    | none => simp [compare, ha, hb]
    | some y =>
      rw [compare_of_some ha hb, compare_of_some hb ha]
      exact (Std.OrientedCmp.eq_swap : s.compareKeys x y = (s.compareKeys y x).swap)

theorem compare_isLE_trans (hab : (s.compare a b).isLE) (hbc : (s.compare b c).isLE) :
    (s.compare a c).isLE := by
  cases ha : a.get? s.key with
  | none =>
    -- nothing but records without the field comes after one without it
    cases hb : b.get? s.key with
    | some y => simp [compare, ha, hb] at hab
    | none =>
      cases hc : c.get? s.key with
      | some z => simp [compare, hb, hc] at hbc
      | none => simp [compare, ha, hc]
  | some x =>
    cases hc : c.get? s.key with
    | none => simp [compare, ha, hc]
    | some z =>
      cases hb : b.get? s.key with
      | none => simp [compare, hb, hc] at hbc
      | some y =>
        rw [compare_of_some ha hb] at hab
        rw [compare_of_some hb hc] at hbc
        rw [compare_of_some ha hc]
        exact (Std.TransCmp.isLE_trans hab hbc : (s.compareKeys x z).isLE)

instance (s : SortOrder) : Std.TransCmp s.compare where
  eq_swap := compare_eq_swap _ _
  isLE_trans := compare_isLE_trans

def precedes (s : SortOrder) (a b : Record) : Bool := s.compare a b != .gt

theorem precedes_iff : s.precedes a b ↔ (s.compare a b).isLE := by
  unfold precedes
  cases s.compare a b <;> decide

theorem precedes_trans (a b c : Record) (hab : s.precedes a b) (hbc : s.precedes b c) : s.precedes a c :=
  precedes_iff.2 (Std.TransCmp.isLE_trans (precedes_iff.1 hab) (precedes_iff.1 hbc))

theorem precedes_total (a b : Record) : s.precedes a b || s.precedes b a := by
  unfold precedes
  rw [compare_eq_swap b a]
  cases s.compare a b <;> rfl

theorem pairwise_apply (s : SortOrder) (records : List Record) :
    (s.apply records).Pairwise fun a b => s.precedes a b :=
  List.pairwise_mergeSort precedes_trans precedes_total records

theorem apply_of_pairwise {records : List Record} (h : records.Pairwise fun a b => s.precedes a b) :
    s.apply records = records :=
  List.mergeSort_of_pairwise h

theorem apply_apply (s : SortOrder) (records : List Record) : s.apply (s.apply records) = s.apply records :=
  apply_of_pairwise (s.pairwise_apply records)

end SortOrder

/-- A comparison by which things are sorted: any two of them are in order one way or the other, and all
three ways to compare carry over from one pair to the next. -/
structure TotalPreorder {α : Type} (cmp : α → α → Ordering) : Prop where
  refl : ∀ a, cmp a a = .eq
  swap : ∀ a b, cmp b a = (cmp a b).swap
  trans : ∀ a b c, (cmp a b).isLE → (cmp b c).isLE → (cmp a c).isLE
  trans_same : ∀ o a b c, cmp a b = o → cmp b c = o → cmp a c = o

theorem TotalPreorder.of_transCmp {α : Type} (cmp : α → α → Ordering) [Std.TransCmp cmp] : TotalPreorder cmp where
  refl _ := Std.ReflCmp.compare_self
  swap _ _ := Std.OrientedCmp.eq_swap
  trans _ _ _ := Std.TransCmp.isLE_trans
  trans_same o _ _ _ hab hbc := by
    cases o with
    | lt => exact Std.TransCmp.lt_trans hab hbc
    | eq => exact Std.TransCmp.eq_trans hab hbc
    | gt => exact Std.TransCmp.gt_trans hab hbc

/-- Values are sorted by a lawful comparison, and so are records by any key in either direction. Strict
equality is an equivalence, and equal values are alike in the total order. Two values compare if and only
if they are both numbers, both strings or both truth values, and then they compare as equal if and only if
they are strictly equal. -/
theorem Json.comparisons_agree :
    TotalPreorder totalOrder ∧ (∀ s : SortOrder, TotalPreorder s.compare) ∧
    Equivalence (fun a b : Json => a.strictEquals b = true) ∧
    (∀ a b : Json, a.strictEquals b → a.totalOrder b = .eq) ∧
    ∀ a b : Json, ((a.compareValues b).isSome ↔ a.kind = b.kind ∧ a.kind.isOrdered) ∧
      ((a.compareValues b).isSome → (a.compareValues b = some .eq ↔ a.strictEquals b)) := by
  refine ⟨.of_transCmp _, fun s => .of_transCmp _, equivalence_strictEquals, ?_, fun a b => ⟨?_, ?_⟩⟩
  · exact fun a b => totalOrder_eq_of_strictEquals
  · exact isSome_compareValues_iff
  · exact compareValues_eq_iff

end

open scoped Regex

/-- An integer that no floating point number represents is equal to its neighbour, and the zeros are equal
where they stand in arrays. -/
theorem Json.comparisons_agree_zeros :
    let odd := Json.ofInt 0x20000000000001
    let even := Json.ofBinary64 (.ofInt 0x20000000000000)
    let plus := array [.ofBinary64 .zero]
    let minus := array [.ofBinary64 Binary64.zero.negate]
    (odd.strictEquals even ∧ odd.totalOrder even = .eq ∧ odd.compareValues even = some .eq) ∧
      plus.strictEquals minus ∧ plus.totalOrder minus = .eq ∧ ¬ (plus.compareValues minus).isSome := by
  intro odd even plus minus
  obtain ⟨-, -, -, halike, hcompare⟩ := Json.comparisons_agree
  have hodd : odd.strictEquals even := by decide +kernel
  have hzeros : plus.strictEquals minus := by decide +kernel
  refine ⟨⟨hodd, halike odd even hodd, ?_⟩, hzeros, halike plus minus hzeros, ?_⟩
  · obtain ⟨hsome, heq⟩ := hcompare odd even
    have hkind : odd.kind = even.kind ∧ odd.kind.isOrdered := by decide +kernel
    exact (heq (hsome.2 hkind)).2 hodd
  · rw [(hcompare plus minus).1]
    exact fun h => Bool.noConfusion h.2

end RecordFlow
