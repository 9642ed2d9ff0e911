import Mathlib.Algebra.Order.Field.Rat
import Mathlib.Data.List.Induction
import Mathlib.Tactic.Positivity
import RecordFlow.Binary64.Arithmetic
import RecordFlow.Proofs.Binary64.Integers

/-! # The value of a number

A finite number stands for a rational number, and the numeric order is that of the
values. An operation on finite numbers leaves the range of the format if and only if its
exact result is at least halfway from the largest finite number to the next power of two.
-/

namespace RecordFlow.Binary64

def value (x : Binary64) : ℚ := x.signedUnits / one

def limit : ℚ := 2 ^ 1024 - 2 ^ 970

variable {x y : Binary64}

namespace Magnitude

theorem unitsOfCode_le_iff {a b : Nat} : unitsOfCode a ≤ unitsOfCode b ↔ a ≤ b := by
  refine ⟨fun h => ?_, unitsOfCode_mono⟩
  by_contra hlt
  exact absurd h (Nat.not_le.2 (unitsOfCode_strictMono (Nat.not_le.1 hlt)))

theorem unitsOfCode_eq_zero_iff {a : Nat} : unitsOfCode a = 0 ↔ a = 0 := by
  constructor
  · intro h
    by_contra hne
    exact (unitsOfCode_pos hne).ne' h
  · rintro rfl
    exact unitsOfCode_zero

end Magnitude

theorem one_cast_pos : (0 : ℚ) < one := Nat.cast_pos.2 Magnitude.one_pos

theorem signedUnits_le_iff (hx : x ≠ nan) (hy : y ≠ nan) :
    x.signedUnits ≤ y.signedUnits ↔ x.place ≤ y.place := by
  cases x with
  | nan => exact absurd rfl hx
  | signed s a =>
    cases y with
    | nan => exact absurd rfl hy
    | signed t b =>
      have hab := Magnitude.unitsOfCode_le_iff (a := a.code) (b := b.code)
      have hba := Magnitude.unitsOfCode_le_iff (a := b.code) (b := a.code)
      have ha := Magnitude.unitsOfCode_eq_zero_iff (a := a.code)
      have hb := Magnitude.unitsOfCode_eq_zero_iff (a := b.code)
      cases s <;> cases t <;> simp [signedUnits, place, orderKey, Magnitude.units] <;> omega

theorem value_le_value_iff (hx : x ≠ nan) (hy : y ≠ nan) : x.value ≤ y.value ↔ x.place ≤ y.place := by
  rw [value, value, div_le_div_iff_of_pos_right one_cast_pos, Int.cast_le, signedUnits_le_iff hx hy]

theorem value_lt_value_iff (hx : x ≠ nan) (hy : y ≠ nan) : x.value < y.value ↔ x.place < y.place := by
  rw [← not_le, value_le_value_iff hy hx, not_le]

theorem less_iff (hx : x ≠ nan) (hy : y ≠ nan) : x.less y ↔ x.value < y.value := by
  rw [less, compare?_eq_some hx hy, value_lt_value_iff hx hy, beq_iff_eq, Option.some.injEq, compare_lt_iff_lt]

@[simp] theorem value_zero : zero.value = 0 := by
  have hunits : zero.signedUnits = 0 := by decide
  rw [value, hunits, Int.cast_zero, zero_div]

theorem place_zero : zero.place = 0 := rfl

theorem value_eq_zero_iff (hx : x ≠ nan) : x.value = 0 ↔ x.place = 0 := by
  have hle := value_le_value_iff hx (y := zero) Binary64.noConfusion
  have hge := value_le_value_iff (x := zero) Binary64.noConfusion hx
  rw [value_zero, place_zero] at hle hge
  rw [le_antisymm_iff, le_antisymm_iff, hle, hge]

theorem equals_iff_value_eq (hx : x ≠ nan) (hy : y ≠ nan) : x.equals y ↔ x.value = y.value := by
  rw [equals, compare?_eq_some hx hy, beq_iff_eq, Option.some.injEq, compare_eq_iff_eq, le_antisymm_iff,
    le_antisymm_iff, value_le_value_iff hx hy, value_le_value_iff hy hx]

theorem equals_zero_iff (hx : x ≠ nan) : x.equals zero ↔ x.value = 0 := by
  rw [equals_iff_value_eq hx (y := zero) Binary64.noConfusion, value_zero]

theorem value_signed_false (m : Magnitude) : (signed false m).value = m.units / one := by
  rw [value, signedUnits, if_neg Bool.false_ne_true, Int.cast_natCast]

theorem abs_value (s : Bool) (m : Magnitude) : |(signed s m).value| = m.units / one := by
  have hunits : |((signed s m).signedUnits : ℚ)| = m.units := by
    cases s <;> simp [signedUnits]
  rw [value, abs_div, hunits, abs_of_pos one_cast_pos]

theorem value_eq_intCast_iff {n : Int} : x.value = n ↔ x.signedUnits = n * one := by
  rw [value, div_eq_iff one_cast_pos.ne', ← Int.cast_natCast one, ← Int.cast_mul, Int.cast_inj]

/-- A number is read as a whole number if it is finite and has that value. -/
theorem toInt?_eq_some_iff {n : Int} : x.toInt? = some n ↔ x.isFinite ∧ x.value = n := by
  rw [toInt?, Option.ite_none_right_eq_some, and_assoc, value_eq_intCast_iff, Option.some.injEq]
  refine and_congr_right fun _ => ⟨?_, fun h => ?_⟩
  · rintro ⟨hmod, rfl⟩
    exact (Int.ediv_mul_cancel_of_emod_eq_zero hmod).symm
  · rw [h]
    exact ⟨Int.mul_emod_left _ _, Int.mul_ediv_cancel _ (Int.natCast_ne_zero.2 Magnitude.one_pos.ne')⟩

/-- A whole number that is the value of its nearest magnitude, which is finite. -/
structure Exact (n : Nat) : Prop where
  finite : (Magnitude.round (n * one) 1).isFinite
  units : (Magnitude.round (n * one) 1).units = n * one

theorem exact_of_unitsOfCode {n code : Nat} (hlt : code < infinityCode)
    (h : Magnitude.unitsOfCode code = n * one) : Exact n := by
  have hnearest := Magnitude.nearest_unitsOfCode code
  rw [h] at hnearest
  have hcode := hnearest.code_round_eq Nat.one_pos hlt.le
  exact ⟨decide_eq_true (hcode.trans_lt hlt), (congrArg Magnitude.unitsOfCode hcode).trans h⟩

theorem exact_mul_two_pow {m s : Nat} (hm : m ≤ 2 * fractionSize) (hs : s ≤ 900) : Exact (m * 2 ^ s) := by
  rcases Nat.eq_zero_or_pos m with rfl | hpos
  · rw [Nat.zero_mul]
    constructor <;> rw [Nat.zero_mul] <;> decide
  · obtain ⟨k, hk, hlow, hhigh⟩ := Magnitude.exists_mantissa_of_nat hpos hm
    obtain ⟨e, he⟩ : ∃ e, e = 1074 := ⟨_, rfl⟩
    have hunits : Magnitude.unitsOfCode ((e + s - k) * fractionSize + m * 2 ^ k) = m * 2 ^ s * one := by
      rw [Magnitude.unitsOfCode_mantissa_le (.inr hlow) hhigh, Magnitude.one_eq he, Nat.mul_assoc, Nat.mul_assoc,
        ← Nat.pow_add, ← Nat.pow_add, show k + (e + s - k) = s + e by omega]
    have hlt : (e + s - k) * fractionSize + m * 2 ^ k < infinityCode := by
      simp only [infinityCode, fractionSize] at *
      omega
    exact exact_of_unitsOfCode hlt hunits

theorem exact_of_le {n : Nat} (h : n ≤ 2 * fractionSize) : Exact n := by
  have hexact := exact_mul_two_pow h (Nat.zero_le 900)
  rwa [Nat.pow_zero, Nat.mul_one] at hexact

theorem exact_of_value_eq {n : Int} (hx : x.isFinite) (h : x.value = n) : Exact n.natAbs := by
  cases x with
  | nan => cases hx
  | signed s m =>
    refine exact_of_unitsOfCode (of_decide_eq_true hx) ?_
    have hunits := congrArg Int.natAbs (value_eq_intCast_iff.1 h)
    rw [Int.natAbs_mul, Int.natAbs_natCast] at hunits
    rw [← hunits]
    cases s <;> simp [signedUnits, Magnitude.units]

theorem ofNat_eq (n : Nat) : ofNat n = signed false (.round (n * one) 1) := by
  rw [ofNat, ofInt, decide_eq_false (by omega), Int.natAbs_natCast]

theorem value_ofInt {n : Int} (h : Exact n.natAbs) : (ofInt n).value = n := by
  rw [value, ofInt, div_eq_iff one_cast_pos.ne', signedUnits, h.units, ← Int.cast_natCast one, ← Int.cast_mul]
  congr 1
  by_cases hn : n < 0
  · rw [decide_eq_true hn, if_pos rfl, Nat.cast_mul, ← neg_mul]
    congr 1
    omega
  · rw [decide_eq_false hn, if_neg Bool.false_ne_true, Nat.cast_mul]
    congr 1
    omega

theorem value_ofNat {n : Nat} (h : Exact n) : (ofNat n).value = n := by
  have hexact : Exact (n : Int).natAbs := h
  rw [ofNat, value_ofInt hexact, Int.cast_natCast]

theorem isFinite_ofNat {n : Nat} (h : Exact n) : (ofNat n).isFinite := h.finite

namespace Magnitude

theorem unitsOfCode_infinityCode_add : ((unitsOfCode infinityCode + unitsOfCode (infinityCode - 1) : Nat) : ℚ) =
    2 * (limit * one) := by
  -- the exponents are variables, so that the powers are never written out
  obtain ⟨m, hm⟩ : ∃ m, m = 1074 := ⟨_, rfl⟩
  obtain ⟨n, hn⟩ : ∃ n, n = 970 := ⟨_, rfl⟩
  have hbelow : unitsOfCode (infinityCode - 1) = (2 ^ 53 - 1) * 2 ^ (n + m + 1) := by
    have h := unitsOfCode_mantissa (s := n + m + 1) (m := 2 * fractionSize - 1) (.inr (by decide)) (by decide)
    rwa [show (n + m + 1) * fractionSize + (2 * fractionSize - 1) = infinityCode - 1 by
      rw [hn, hm]; decide] at h
  have hlimit : limit = 2 ^ (n + 54) - 2 ^ n := by rw [hn]; rfl
  rw [unitsOfCode_infinityCode (n := n + m + 2) (by omega), hbelow, hlimit, one_eq hm]
  push_cast
  ring

theorem two_pow_lt_limit {k : Nat} (hk : k ≤ 1023) : 2 ^ k < limit := by
  obtain ⟨n, hn⟩ : ∃ n, n = 970 := ⟨_, rfl⟩
  have hpos : (0 : ℚ) < 2 ^ n := by positivity
  calc (2 : ℚ) ^ k ≤ 2 ^ (n + 53) := pow_le_pow_right₀ (by norm_num) (by omega)
    _ < 2 ^ (n + 54) - 2 ^ n := by
      rw [pow_add, pow_add]
      linarith
    _ = limit := by rw [hn]; rfl

theorem isFinite_iff {m : Magnitude} : m.isFinite ↔ m.code < infinityCode := decide_eq_true_iff

/-- A value is rounded to a finite magnitude if it is below the midpoint to infinity. -/
theorem isFinite_round_iff {num den : Nat} (hden : 0 < den) :
    (round num den).isFinite ↔ (num / den : ℚ) < limit * one := by
  have hhalf : (num / den : ℚ) < limit * one ↔
      2 * num < (unitsOfCode infinityCode + unitsOfCode (infinityCode - 1)) * den := by
    rw [← Nat.cast_lt (α := ℚ), Nat.cast_mul (unitsOfCode infinityCode + _), unitsOfCode_infinityCode_add,
      div_lt_iff₀ (Nat.cast_pos.2 hden), Nat.cast_mul, Nat.cast_two, mul_assoc 2,
      mul_lt_mul_iff_right₀ (by norm_num)]
  rw [hhalf, isFinite_iff, code_round, min_lt_iff, or_iff_right (Nat.lt_irrefl _)]
  have hnearest : Nearest (roundCode num den) num den := nearest_roundCode hden
  generalize roundCode num den = code at hnearest
  constructor
  · intro h
    refine lt_of_le_of_ne (hnearest.high.trans (Nat.mul_le_mul_right _ ?_)) fun heq => ?_
    · have h1 := unitsOfCode_mono (a := code) (b := infinityCode - 1) (by omega)
      have h2 := unitsOfCode_mono (a := code + 1) (b := infinityCode) (by omega)
      omega
    · -- the code below infinity is odd, so the midpoint above it belongs to infinity
      have hlast : code = infinityCode - 1 := by
        by_contra hne
        have h1 := unitsOfCode_strictMono (a := code) (b := infinityCode - 1) (by omega)
        have h2 := unitsOfCode_mono (a := code + 1) (b := infinityCode) (by omega)
        have hhigh := hnearest.high
        rw [heq] at hhigh
        have := Nat.le_of_mul_le_mul_right hhigh hden
        omega
      have heven := hnearest.even_of_high (by
        rw [heq, hlast, Nat.sub_add_cancel (by decide), Nat.add_comm])
      rw [hlast] at heven
      exact absurd heven (by decide)
  · intro h
    by_contra hge
    have h1 := unitsOfCode_mono (a := infinityCode) (b := code) (by omega)
    have h2 := unitsOfCode_mono (a := infinityCode - 1) (b := code - 1) (by omega)
    have hle : (unitsOfCode infinityCode + unitsOfCode (infinityCode - 1)) * den ≤ 2 * num :=
      (Nat.mul_le_mul_right _ (by omega)).trans hnearest.low
    omega

end Magnitude

theorem isFinite_signed {s : Bool} {m : Magnitude} : (signed s m).isFinite = m.isFinite := rfl

theorem abs_value_lt_limit (hx : x.isFinite) : |x.value| < limit := by
  cases x with
  | nan => cases hx
  | signed s m =>
    have hcode : (Magnitude.round m.units 1).isFinite := by
      rw [Magnitude.isFinite_iff, Magnitude.units,
        (Magnitude.nearest_unitsOfCode m.code).code_round_eq Nat.one_pos m.code_le]
      exact Magnitude.isFinite_iff.1 hx
    rw [Magnitude.isFinite_round_iff Nat.one_pos, Nat.cast_one, div_one] at hcode
    rwa [abs_value, div_lt_iff₀ one_cast_pos]

theorem isFinite_ofInt_iff {n : Int} : (ofInt n).isFinite ↔ |(n : ℚ)| < limit := by
  rw [ofInt, isFinite_signed, Magnitude.isFinite_round_iff Nat.one_pos, Nat.cast_one, div_one, Nat.cast_mul,
    mul_lt_mul_iff_left₀ one_cast_pos, Nat.cast_natAbs, Int.cast_abs]

theorem isFinite_ofInt {n : Int} {k : Nat} (hk : k ≤ 1023) (h : n.natAbs ≤ 2 ^ k) : (ofInt n).isFinite := by
  rw [isFinite_ofInt_iff, ← Int.cast_abs, ← Nat.cast_natAbs]
  refine lt_of_le_of_lt ?_ (Magnitude.two_pow_lt_limit hk)
  exact_mod_cast h

theorem isFinite_add_iff (hx : x.isFinite) (hy : y.isFinite) :
    (x.add y).isFinite ↔ |x.value + y.value| < limit := by
  cases x with
  | nan => cases hx
  | signed s a =>
    cases y with
    | nan => cases hy
    | signed t b =>
      have hvalue : |(signed s a).value + (signed t b).value| =
          ((signed s a).signedUnits + (signed t b).signedUnits).natAbs / one := by
        rw [value, value, ← add_div, ← Int.cast_add, abs_div, abs_of_pos one_cast_pos, Nat.cast_natAbs, Int.cast_abs]
      rw [isFinite_signed] at hx hy
      rw [hvalue, div_lt_iff₀ one_cast_pos]
      simp only [add, hx, hy, Bool.and_self, if_true, addFinite]
      split
      · next hzero =>
        rw [hzero, Int.natAbs_zero, Nat.cast_zero]
        refine iff_of_true rfl (mul_pos ?_ one_cast_pos)
        exact (abs_nonneg _).trans_lt (abs_value_lt_limit (x := zero) (by decide))
      · rw [isFinite_signed, Magnitude.isFinite_round_iff Nat.one_pos, Nat.cast_one, div_one]

theorem isFinite_mul_iff (hx : x.isFinite) (hy : y.isFinite) :
    (x.mul y).isFinite ↔ |x.value * y.value| < limit := by
  cases x with
  | nan => cases hx
  | signed s a =>
    cases y with
    | nan => cases hy
    | signed t b =>
      rw [isFinite_signed] at hx hy
      simp only [mul, hx, hy, Bool.and_self, if_true]
      rw [isFinite_signed, Magnitude.isFinite_round_iff Magnitude.one_pos, abs_mul, abs_value, abs_value,
        div_mul_div_comm, ← div_div, div_lt_iff₀ one_cast_pos, Nat.cast_mul, div_lt_iff₀ one_cast_pos,
        div_lt_iff₀ one_cast_pos]

theorem isFinite_div_iff (hx : x.isFinite) (hy : y.isFinite) (hne : y.value ≠ 0) :
    (x.div y).isFinite ↔ |x.value / y.value| < limit := by
  cases x with
  | nan => cases hx
  | signed s a =>
    cases y with
    | nan => cases hy
    | signed t b =>
      have hb : b ≠ .zero := by
        rintro rfl
        exact hne ((value_eq_zero_iff Binary64.noConfusion).2 (by cases t <;> rfl))
      have hcode : b.code ≠ 0 := fun h => hb (by cases b; cases h; rfl)
      have hunits : 0 < b.units := Magnitude.unitsOfCode_pos hcode
      rw [isFinite_signed] at hx hy
      simp only [div, if_neg hb, hx, hy, Bool.and_self, if_true]
      rw [isFinite_signed, Magnitude.isFinite_round_iff hunits, abs_div, abs_value, abs_value,
        div_div_div_cancel_right₀ one_cast_pos.ne', Nat.cast_mul, mul_div_right_comm,
        mul_lt_mul_iff_left₀ one_cast_pos]

/-- What has left the range stays outside when finite numbers are added. -/
theorem not_isFinite_add (hx : ¬ x.isFinite) (hy : y.isFinite) : ¬ (x.add y).isFinite := by
  cases x with
  | nan => exact hx
  | signed s a =>
    cases y with
    | nan => cases hy
    | signed t b =>
      rw [isFinite_signed] at hx hy
      simp only [add, hx, hy, Bool.false_and, Bool.true_or, if_true]
      simpa [isFinite_signed] using hx

theorem not_isFinite_div (hx : ¬ x.isFinite) (hy : y.isFinite) : ¬ (x.div y).isFinite := by
  cases x with
  | nan => exact hx
  | signed s a =>
    cases y with
    | nan => cases hy
    | signed t b =>
      have ha : a ≠ .zero := by
        rintro rfl
        exact hx rfl
      rw [isFinite_signed] at hx hy
      simp only [div, ha, hx, hy, if_false, Bool.false_and, if_true]
      split <;> exact Bool.noConfusion

theorem isFinite_div_ofNat_iff {n : Nat} (hn : 0 < n) : (x.div (ofNat n)).isFinite ↔ x.isFinite := by
  by_cases hfinite : (ofNat n).isFinite
  · have hone : 1 ≤ (ofNat n).value := by
      have hle : (ofInt 1).place ≤ (ofInt n).place := place_ofInt_mono (by omega)
      rw [← value_le_value_iff (ofInt_ne_nan 1) (ofInt_ne_nan n), value_ofInt (exact_of_le (by decide))] at hle
      exact_mod_cast hle
    constructor
    · intro h
      by_contra hx
      exact not_isFinite_div hx hfinite h
    · intro hx
      rw [isFinite_div_iff hx hfinite (by linarith), abs_div]
      refine (div_le_self (abs_nonneg _) ?_).trans_lt (abs_value_lt_limit hx)
      exact hone.trans (le_abs_self _)
  · cases x with
    | nan => exact Iff.rfl
    | signed s a =>
      have hzero : Magnitude.round (n * one) 1 ≠ .zero := by
        intro h
        exact hfinite (congrArg Magnitude.isFinite h)
      have hinfinite : (Magnitude.round (n * one) 1).isFinite = false := Bool.eq_false_iff.2 hfinite
      show ((signed s a).div (signed _ (Magnitude.round (n * one) 1))).isFinite ↔ a.isFinite
      simp only [div, if_neg hzero, hinfinite, Bool.and_false, Bool.false_eq_true, if_false]
      cases a.isFinite <;> simp [isFinite, Magnitude.isFinite, Magnitude.zero, infinityCode, fractionSize]

def sum (xs : List Binary64) : Binary64 := xs.foldl add zero

/-- Whether a sum stays within the range: each number, added to the sum of those before it, gives an exact sum
within it. -/
def SumsWithin (xs : List Binary64) : Prop := ∀ ys y, ys ++ [y] <+: xs → |(sum ys).value + y.value| < limit

variable {xs : List Binary64}

theorem sum_concat (xs : List Binary64) (x : Binary64) : sum (xs ++ [x]) = (sum xs).add x := by
  rw [sum, List.foldl_append]
  rfl

theorem sumsWithin_concat : SumsWithin (xs ++ [x]) ↔ SumsWithin xs ∧ |(sum xs).value + x.value| < limit := by
  constructor
  · intro h
    exact ⟨fun ys y hys => h ys y (hys.trans (List.prefix_append xs [x])), h xs x (List.prefix_refl _)⟩
  · rintro ⟨h, hlast⟩ ys y hys
    rcases List.prefix_concat_iff.1 hys with heq | hys
    · obtain ⟨rfl, hy⟩ := List.append_inj' heq rfl
      obtain rfl := List.singleton_inj.1 hy
      exact hlast
    · exact h ys y hys

/-- A sum of finite numbers is finite if and only if it stays within the range. -/
theorem isFinite_sum_iff (hxs : ∀ x ∈ xs, x.isFinite) : (sum xs).isFinite ↔ SumsWithin xs := by
  induction xs using List.reverseRecOn with
  | nil =>
    refine iff_of_true rfl fun ys y hys => ?_
    simp at hys
  | append_singleton xs x ih =>
    have hx : x.isFinite := hxs x (by simp)
    have ih := ih fun y hy => hxs y (List.mem_append_left _ hy)
    rw [sum_concat, sumsWithin_concat, ← ih]
    by_cases hsum : (sum xs).isFinite
    · rw [isFinite_add_iff hsum hx, and_iff_right hsum]
    · exact iff_of_false (not_isFinite_add hsum hx) fun h => hsum h.1

end RecordFlow.Binary64
