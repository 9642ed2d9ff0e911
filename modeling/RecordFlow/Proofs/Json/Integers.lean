import RecordFlow.Proofs.Binary64.Integers

/-! # Comparing integers

Integers are compared through their nearest floating point numbers. Their order is never
turned around, but two large integers with the same nearest floating point number are not
told apart.
-/

namespace RecordFlow.Json

variable {a b : Int} {ha : FitsWord a} {hb : FitsWord b}

theorem compareValues_integer : (number (.integer a ha)).compareValues (number (.integer b hb)) =
    some (compare (Binary64.ofInt a).place (Binary64.ofInt b).place) :=
  Binary64.compare?_eq_some (Binary64.ofInt_ne_nan a) (Binary64.ofInt_ne_nan b)

theorem totalOrder_integer : (number (.integer a ha)).totalOrder (number (.integer b hb)) =
    compare (Binary64.ofInt a).place (Binary64.ofInt b).place := by
  rw [totalOrder, compareValues_integer]
  rfl

theorem strictEquals_integer_iff : (number (.integer a ha)).strictEquals (number (.integer b hb)) ↔
    Binary64.ofInt a = Binary64.ofInt b := by
  have hsome : ((number (.integer a ha)).compareValues (number (.integer b hb))).isSome := by
    rw [compareValues_integer]
    rfl
  rw [← compareValues_eq_iff hsome, compareValues_integer, ← Binary64.place_ofInt_eq_iff, Option.some_inj]
  exact compare_eq_iff_eq

/-- Integers stand in their own order if and only if they are the same or have different nearest floating
point numbers. -/
theorem compare_place_ofInt_iff : compare (Binary64.ofInt a).place (Binary64.ofInt b).place = compare a b ↔
    a = b ∨ Binary64.ofInt a ≠ Binary64.ofInt b := by
  rw [ne_eq, ← Binary64.place_ofInt_eq_iff]
  rcases lt_trichotomy a b with h | rfl | h
  · have hle := Binary64.place_ofInt_mono h.le
    rw [compare_lt_iff_lt.2 h, compare_lt_iff_lt]
    omega
  · simp
  · have hle := Binary64.place_ofInt_mono h.le
    rw [compare_gt_iff_gt.2 h, compare_gt_iff_gt]
    omega

theorem lt_of_compare_place_ofInt (h : compare (Binary64.ofInt a).place (Binary64.ofInt b).place = .lt) : a < b := by
  by_contra hle
  have hplace := Binary64.place_ofInt_mono (Int.not_lt.1 hle)
  exact absurd (compare_lt_iff_lt.1 h) (Int.not_lt.2 hplace)

theorem ofInt_ne_of_apart (hapart : Binary64.Apart a b) (h : a ≠ b) : Binary64.ofInt a ≠ Binary64.ofInt b := by
  rw [ne_eq, ← Binary64.place_ofInt_eq_iff]
  rcases Int.lt_or_gt_of_ne h with hlt | hlt
  · exact (Binary64.place_ofInt_lt hapart hlt).ne
  · exact (Binary64.place_ofInt_lt hapart.symm hlt).ne'

/-- Integers are in their own order if and only if they are the same or have different nearest floating
point numbers, and strictly equal if and only if they have the same one. The order is never turned around.
Integers of different signs are told apart, and so are two of which one is below `2 ^ 53` in magnitude. -/
theorem compare_integers (ha : FitsWord a) (hb : FitsWord b) :
    let x := number (.integer a ha)
    let y := number (.integer b hb)
    x.compareValues y = some (x.totalOrder y) ∧
    (x.totalOrder y = compare a b ↔ a = b ∨ Binary64.ofInt a ≠ Binary64.ofInt b) ∧
    (x.strictEquals y ↔ Binary64.ofInt a = Binary64.ofInt b) ∧
    (x.totalOrder y = .lt → a < b) ∧ (x.totalOrder y = .gt → b < a) ∧
    (Binary64.Apart a b → x.totalOrder y = compare a b ∧ (x.strictEquals y ↔ a = b)) := by
  intro x y
  have horder : x.totalOrder y = compare (Binary64.ofInt a).place (Binary64.ofInt b).place := totalOrder_integer
  have hexact : x.totalOrder y = compare a b ↔ a = b ∨ Binary64.ofInt a ≠ Binary64.ofInt b := by
    rw [horder]
    exact compare_place_ofInt_iff
  refine ⟨?_, hexact, strictEquals_integer_iff, fun h => ?_, fun h => ?_, fun hapart => ⟨?_, ?_⟩⟩
  · rw [horder]
    exact compareValues_integer
  · exact lt_of_compare_place_ofInt (horder.symm.trans h)
  · have hplace := compare_gt_iff_gt.1 (horder.symm.trans h)
    exact lt_of_compare_place_ofInt (compare_lt_iff_lt.2 hplace)
  · exact hexact.2 ((eq_or_ne a b).imp_right (ofInt_ne_of_apart hapart))
  · rw [strictEquals_integer_iff]
    refine ⟨fun h => ?_, congrArg _⟩
    by_contra hne
    exact ofInt_ne_of_apart hapart hne h

/-- The first integer without a floating point number of its own is taken for the one before it, which is
told apart from all below it. -/
theorem compare_integers_without_float :
    let odd := number (.integer 0x20000000000001 (by decide))
    let even := number (.integer 0x20000000000000 (by decide))
    let below := number (.integer 0x1fffffffffffff (by decide))
    (odd.strictEquals even ∧ odd.totalOrder even ≠ compare 0x20000000000001 0x20000000000000) ∧
      below.totalOrder even = .lt ∧ ¬ below.strictEquals even := by
  intro odd even below
  obtain ⟨-, hexact, hequal, -, -, -⟩ :=
    compare_integers (a := 0x20000000000001) (b := 0x20000000000000) (by decide) (by decide)
  obtain ⟨-, -, -, -, -, hapart⟩ :=
    compare_integers (a := 0x1fffffffffffff) (b := 0x20000000000000) (by decide) (by decide)
  have hsame : Binary64.ofInt 0x20000000000001 = Binary64.ofInt 0x20000000000000 := by decide +kernel
  refine ⟨⟨hequal.2 hsame, fun h => ?_⟩, ?_⟩
  · rcases hexact.1 h with heq | hne
    · exact absurd heq (by decide)
    · exact hne hsame
  · obtain ⟨horder, hequal⟩ := hapart (.inr (by decide))
    exact ⟨horder, fun h => absurd (hequal.1 h) (by decide)⟩

end RecordFlow.Json
