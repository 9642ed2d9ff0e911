import RecordFlow.Operator.Aggregate
import RecordFlow.Operator.Fuzz
import RecordFlow.Proofs.Binary64.Value
import RecordFlow.Proofs.Dict

/-! # Numbers under a field

Coarsening and sums go through the numbers under a field of records. They fail if and
only if a record has a value there that is no number. The largest of some numbers does
not depend on their order, unless it is zero.
-/

namespace RecordFlow

namespace Json

def toBinary64? : Json → Option Binary64
  | number n => some n.toBinary64
  | _ => none

theorem Number.isFinite_toBinary64 (n : Number) : n.toBinary64.isFinite := by
  cases n with
  | integer n h => exact Binary64.isFinite_ofInt (k := 64) (by decide) (by unfold FitsWord at h; omega)
  | float x h => exact h

theorem isFinite_of_toBinary64? {value : Json} {x : Binary64} (h : value.toBinary64? = some x) : x.isFinite := by
  cases value with
  | number n =>
    cases h
    exact n.isFinite_toBinary64
  | null | bool | string | array | object => cases h

end Json

namespace Record

def number? (record : Record) (target : String) : Option Binary64 := (record.get? target).bind Json.toBinary64?

/-- Whether a record has no other value than a number under a field. -/
def Numeric (record : Record) (target : String) : Prop :=
  ∀ value, record.get? target = some value → value.kind = .number

variable {record : Record} {target : String} {value : Json}

theorem number?_of_some (h : record.get? target = some value) : record.number? target = value.toBinary64? := by
  rw [number?, h, Option.bind_some]

theorem number?_of_none (h : record.get? target = none) : record.number? target = none := by
  rw [number?, h, Option.bind_none]

theorem numeric_of_none (h : record.get? target = none) : record.Numeric target := by
  intro value hvalue
  cases h.symm.trans hvalue

theorem numeric_iff_of_some (h : record.get? target = some value) :
    record.Numeric target ↔ value.kind = .number := by
  constructor
  · exact fun hnumeric => hnumeric value h
  · intro hkind value' h'
    cases h.symm.trans h'
    exact hkind

theorem Numeric.isSome_number? (h : record.Numeric target) : (record.number? target).isSome = record.contains target := by
  cases hget : record.get? target with
  | none =>
    rw [number?_of_none hget, Dict.contains, hget]
    rfl
  | some value =>
    rw [number?_of_some hget, Dict.contains, hget]
    cases value with
    | number n => rfl
    | null | bool | string | array | object => cases h _ hget

theorem contains_of_not_numeric (h : ¬ record.Numeric target) : record.contains target := by
  cases hget : record.get? target with
  | none => exact absurd (numeric_of_none hget) h
  | some value => exact Dict.contains_of_some hget

end Record

def numbersOf (target : String) (records : List Record) : List Binary64 := records.filterMap (·.number? target)

variable {target : String} {records : List Record}

theorem isFinite_of_mem_numbersOf {x : Binary64} (h : x ∈ numbersOf target records) : x.isFinite := by
  obtain ⟨record, -, hx⟩ := List.mem_filterMap.1 h
  obtain ⟨value, -, hvalue⟩ := Option.bind_eq_some_iff.1 hx
  exact Json.isFinite_of_toBinary64? hvalue

def numbered (target : String) (records : List Record) : List (Record × Binary64) :=
  records.filterMap fun record => (record.number? target).map (record, ·)

theorem numbered_cons_of_none {record : Record} (h : record.number? target = none) :
    numbered target (record :: records) = numbered target records := by
  rw [numbered, List.filterMap_cons, h]
  rfl

theorem numbered_cons_of_some {record : Record} {x : Binary64} (h : record.number? target = some x) :
    numbered target (record :: records) = (record, x) :: numbered target records := by
  rw [numbered, List.filterMap_cons, h]
  rfl

theorem map_snd_numbered (target : String) (records : List Record) :
    (numbered target records).map Prod.snd = numbersOf target records := by
  rw [numbered, List.map_filterMap]
  refine List.filterMap_congr fun record _ => ?_
  cases record.number? target <;> rfl

theorem map_numbered (h : ∀ record ∈ records, record.Numeric target) (g : Record → Binary64 → Record) :
    (numbered target records).map (fun found => g found.1 found.2) =
      (records.filter (·.contains target)).map fun record => ((record.number? target).map (g record)).getD record := by
  induction records with
  | nil => rfl
  | cons record records ih =>
    obtain ⟨hrecord, hrecords⟩ := List.forall_mem_cons.1 h
    rw [List.filter_cons, ← hrecord.isSome_number?]
    cases hnumber : record.number? target with
    | none => simpa [numbered_cons_of_none hnumber] using ih hrecords
    | some x => simpa [numbered_cons_of_some hnumber, hnumber] using ih hrecords

namespace Fuzz

variable {fault : Json.Kind → DataFault}

theorem numbers_of_numeric (fault : Json.Kind → DataFault) (h : ∀ record ∈ records, record.Numeric target) :
    numbers target fault records = .ok (numbered target records) := by
  induction records with
  | nil => rfl
  | cons record records ih =>
    obtain ⟨hrecord, hrecords⟩ := List.forall_mem_cons.1 h
    unfold numbers
    split
    · next hget => rw [ih hrecords, numbered_cons_of_none (Record.number?_of_none hget)]
    · next n hget =>
      rw [ih hrecords, numbered_cons_of_some (Record.number?_of_some hget)]
      rfl
    · next other hnumber hget =>
      cases other with
      | number n => exact absurd rfl (hnumber n)
      | null | bool | string | array | object => cases hrecord _ hget

theorem exists_numbers_error {record : Record} (hmem : record ∈ records) (h : ¬ record.Numeric target) :
    ∃ e, numbers target fault records = .error e := by
  induction records with
  | nil => cases hmem
  | cons first records ih =>
    unfold numbers
    rcases List.mem_cons.1 hmem with rfl | hmem
    · split
      · next hget => exact absurd (Record.numeric_of_none hget) h
      · next n hget => exact absurd ((Record.numeric_iff_of_some hget).2 rfl) h
      · next other _ _ => exact ⟨_, rfl⟩
    · obtain ⟨e, he⟩ := ih hmem
      split
      · exact ⟨e, he⟩
      · exact ⟨e, by rw [he]; rfl⟩
      · exact ⟨_, rfl⟩

theorem exists_numbers_error_iff (fault : Json.Kind → DataFault) :
    (∃ e, numbers target fault records = .error e) ↔ ∃ record ∈ records, ¬ record.Numeric target := by
  constructor
  · rintro ⟨e, he⟩
    by_contra! hnumeric
    cases he.symm.trans (numbers_of_numeric fault hnumeric)
  · rintro ⟨record, hmem, h⟩
    exact exists_numbers_error hmem h

end Fuzz

namespace Summary

theorem addNumbers_eq (total : Binary64) : addNumbers target total records =
    (Fuzz.numbers target (.sumOf target) records).map fun found => (found.map Prod.snd).foldl Binary64.add total := by
  induction records generalizing total with
  | nil => rfl
  | cons record records ih =>
    unfold addNumbers Fuzz.numbers
    cases record.get? target with
    | none => exact ih total
    | some value =>
      cases value with
      | number n =>
        refine (ih _).trans ?_
        cases Fuzz.numbers target (.sumOf target) records <;> rfl
      | null | bool | string | array | object => rfl

theorem sumOf_of_numeric (h : ∀ record ∈ records, record.Numeric target) :
    sumOf target records = .ok (Binary64.sum (numbersOf target records)) := by
  rw [sumOf, addNumbers_eq, Fuzz.numbers_of_numeric _ h, ← map_snd_numbered]
  rfl

theorem numeric_of_sumOf {total : Binary64} (h : sumOf target records = .ok total) :
    ∀ record ∈ records, record.Numeric target := by
  by_contra! hother
  obtain ⟨e, he⟩ := (Fuzz.exists_numbers_error_iff (.sumOf target)).2 hother
  rw [sumOf, addNumbers_eq, he] at h
  cases h

end Summary

namespace Binary64

variable {x y m m' : Binary64} {xs ys : List Binary64}

/-- A number among others that is not smaller than any of them. -/
structure Largest (m : Binary64) (xs : List Binary64) : Prop where
  mem : m ∈ xs
  le : ∀ x ∈ xs, x.value ≤ m.value

theorem Largest.of_perm (h : m.Largest xs) (hperm : xs.Perm ys) : m.Largest ys :=
  ⟨hperm.mem_iff.1 h.mem, fun x hx => h.le x (hperm.mem_iff.2 hx)⟩

theorem Largest.value_eq (h : m.Largest xs) (h' : m'.Largest xs) : m.value = m'.value :=
  le_antisymm (h'.le m h.mem) (h.le m' h'.mem)

/-- A number that is not zero is the only one with its value. -/
theorem eq_of_value_eq (hx : x ≠ nan) (hy : y ≠ nan) (h : x.value = y.value) (hne : x.value ≠ 0) : x = y := by
  have hplace : x.place = y.place :=
    le_antisymm ((value_le_value_iff hx hy).1 h.le) ((value_le_value_iff hy hx).1 h.ge)
  have hself {z : Binary64} (hz : z ≠ nan) (hne : z.value ≠ 0) : z.plusZero = z := by
    rw [Ne, value_eq_zero_iff hz] at hne
    cases z with
    | nan => rfl
    | signed s m =>
      have hcode : m.code ≠ 0 := by
        intro hcode
        exact hne (by cases s <;> simp [place, orderKey, hcode])
      simp [plusZero, hcode]
  rw [← hself hx hne, ← hself hy (h ▸ hne)]
  exact (place_eq_place_iff hx hy).1 hplace

theorem Largest.unique (h : m.Largest xs) (h' : m'.Largest xs) (hxs : ∀ x ∈ xs, x.isFinite) (hne : m.value ≠ 0) :
    m = m' := by
  have hm := Json.ne_nan_of_isFinite (hxs m h.mem)
  have hm' := Json.ne_nan_of_isFinite (hxs m' h'.mem)
  exact eq_of_value_eq hm hm' (h.value_eq h') hne

theorem largest_maximum (hx : x ≠ nan) (hy : y ≠ nan) : (x.maximum y).Largest [x, y] := by
  rw [maximum, compare?_eq_some hx hy]
  cases hcompare : compare x.place y.place with
  | lt =>
    have hlt := (value_lt_value_iff hx hy).2 (compare_lt_iff_lt.1 hcompare)
    exact ⟨by simp, by simpa using hlt.le⟩
  | eq =>
    have hle := (value_le_value_iff hy hx).2 (compare_eq_iff_eq.1 hcompare).ge
    exact ⟨by simp, by simpa using hle⟩
  | gt =>
    have hlt := (value_lt_value_iff hy hx).2 (compare_gt_iff_gt.1 hcompare)
    exact ⟨by simp, by simpa using hlt.le⟩

theorem Largest.expand (h : m.Largest (m' :: xs)) (h' : m'.Largest ys) : m.Largest (ys ++ xs) where
  mem := by
    rcases List.mem_cons.1 h.mem with rfl | hmem
    · exact List.mem_append_left xs h'.mem
    · exact List.mem_append_right ys hmem
  le x hx := by
    obtain ⟨hfirst, hrest⟩ := List.forall_mem_cons.1 h.le
    rcases List.mem_append.1 hx with hx | hx
    · exact (h'.le x hx).trans hfirst
    · exact hrest x hx

theorem largest_foldl_maximum (hxs : ∀ y ∈ x :: xs, y.isFinite) : (xs.foldl maximum x).Largest (x :: xs) := by
  induction xs generalizing x with
  | nil => exact ⟨List.mem_singleton_self x, by simp⟩
  | cons y xs ih =>
    obtain ⟨hx, hy, hrest⟩ : x.isFinite ∧ y.isFinite ∧ ∀ z ∈ xs, z.isFinite := by simpa using hxs
    have hfirst := largest_maximum (Json.ne_nan_of_isFinite hx) (Json.ne_nan_of_isFinite hy)
    have hpair : ∀ z ∈ [x, y], z.isFinite := by simp [hx, hy]
    exact (ih (List.forall_mem_cons.2 ⟨hpair _ hfirst.mem, hrest⟩)).expand hfirst

end Binary64

namespace Fuzz

variable {xs ys : List Binary64} {m : Binary64}

theorem maximum?_eq_none_iff : maximum? xs = none ↔ xs = [] := by
  cases xs <;> simp [maximum?]

theorem largest_of_maximum? (hxs : ∀ x ∈ xs, x.isFinite) (h : maximum? xs = some m) : m.Largest xs := by
  cases xs with
  | nil => cases h
  | cons x xs =>
    cases h
    exact Binary64.largest_foldl_maximum hxs

end Fuzz

end RecordFlow
