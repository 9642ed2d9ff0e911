import RecordFlow.Proofs.Binary64.Logarithm

/-! # Nearest numbers to whole numbers

A code in whose span a whole number lies is as close to it as any other code, and even
if another one is as close. The number that is made from a whole number is therefore the
nearest one, and of two nearest ones the even one.
-/

namespace RecordFlow.Binary64

def isEven : Binary64 → Bool
  | nan => false
  | signed _ m => m.code % 2 == 0

/-- A nearest number, which is even if another number is as close. -/
structure NearestEvenTo (x : Binary64) (r : ℝ) : Prop extends NearestTo x r where
  even : ∀ y : Binary64, y.isFinite → y.value ≠ x.value → |(y.value : ℝ) - r| = |(x.value : ℝ) - r| → x.isEven

namespace Magnitude

variable {code num : Nat}

/-- No code is closer to a value than the one in whose span it lies. -/
theorem Nearest.natAbs_le (h : Nearest code num 1) (other : Nat) :
    ((unitsOfCode code : Int) - num).natAbs ≤ ((unitsOfCode other : Int) - num).natAbs := by
  have hlow := h.low
  have hhigh := h.high
  have hpred := unitsOfCode_mono (Nat.sub_le code 1)
  have hsucc := unitsOfCode_lt_succ code
  rcases Nat.lt_trichotomy other code with hlt | rfl | hgt
  · have hother := unitsOfCode_mono (a := other) (b := code - 1) (by omega)
    omega
  · exact Nat.le_refl _
  · have hother := unitsOfCode_mono (a := code + 1) (b := other) hgt
    omega

theorem Nearest.even_of_natAbs_eq (h : Nearest code num 1) {other : Nat} (hne : other ≠ code)
    (heq : ((unitsOfCode other : Int) - num).natAbs = ((unitsOfCode code : Int) - num).natAbs) : code % 2 = 0 := by
  have hlow := h.low
  have hhigh := h.high
  have hsucc := unitsOfCode_lt_succ code
  rcases Nat.lt_or_gt_of_ne hne with hlt | hgt
  · have hother := unitsOfCode_mono (a := other) (b := code - 1) (by omega)
    have hpred := unitsOfCode_strictMono (a := code - 1) (b := code) (by omega)
    exact h.even_of_low (by omega)
  · have hother := unitsOfCode_mono (a := code + 1) (b := other) hgt
    exact h.even_of_high (by omega)

theorem nearest_code_round {num : Nat} (hfinite : (round num 1).isFinite) : Nearest (round num 1).code num 1 := by
  have hcode := isFinite_iff.1 hfinite
  rw [code_round] at hcode ⊢
  rw [Nat.min_eq_right (by omega)]
  exact nearest_roundCode Nat.one_pos

end Magnitude

theorem abs_value_sub (x : Binary64) (n : Nat) :
    |(x.value : ℝ) - n| = (x.signedUnits - (n * one : Nat)).natAbs / one := by
  have hone : (0 : ℝ) < one := Nat.cast_pos.2 Magnitude.one_pos
  have hvalue : (x.value : ℝ) - n = (x.signedUnits - (n * one : Nat) : Int) / one := by
    rw [value, Int.cast_sub, sub_div, Int.cast_natCast, Nat.cast_mul, mul_div_cancel_right₀ _ hone.ne', Rat.cast_div,
      Rat.cast_intCast, Rat.cast_natCast]
  rw [hvalue, abs_div, abs_of_pos hone, Nat.cast_natAbs, Int.cast_abs]

theorem natAbs_signedUnits_sub (s : Bool) (m : Magnitude) (n : Nat) :
    ((m.units : Int) - n).natAbs ≤ ((signed s m).signedUnits - n).natAbs := by
  cases s
  · exact Nat.le_refl _
  · simp only [signedUnits, if_true]
    omega

theorem Magnitude.Nearest.even_of_tie {c : Magnitude} {n : Nat} (h : Nearest c.code n 1) {s : Bool} {m : Magnitude}
    (hne : (signed s m).value ≠ (signed false c).value)
    (heq : ((signed s m).signedUnits - n).natAbs = ((c.units : Int) - n).natAbs) : c.code % 2 = 0 := by
  have hle := natAbs_signedUnits_sub s m n
  have hge : ((c.units : Int) - n).natAbs ≤ ((m.units : Int) - n).natAbs := h.natAbs_le m.code
  by_cases hcode : m.code = c.code
  · have hunits : m.units = c.units := congrArg unitsOfCode hcode
    cases s with
    | false => exact absurd (by rw [value, value, signedUnits, signedUnits, hunits]) hne
    | true =>
      -- both signs of one magnitude are equally far from zero only
      simp only [signedUnits, if_true, hunits] at heq
      have hlow := h.low
      have hzero : unitsOfCode c.code = 0 := by
        change c.units = 0
        change (c.units + _) * 1 ≤ 2 * n at hlow
        omega
      rw [unitsOfCode_eq_zero_iff.1 hzero]
  · exact h.even_of_natAbs_eq hcode (le_antisymm (hle.trans heq.le) hge)

theorem nearestEvenTo_ofNat {n : Nat} (hfinite : (ofNat n).isFinite) : (ofNat n).NearestEvenTo n := by
  rw [ofNat_eq, isFinite_signed] at hfinite
  have hnearest := Magnitude.nearest_code_round hfinite
  rw [ofNat_eq]
  refine ⟨⟨hfinite, fun y hy => ?_⟩, fun y hy hne heq => ?_⟩
  · cases y with
    | nan => cases hy
    | signed s m =>
      rw [abs_value_sub, abs_value_sub]
      gcongr
      exact (hnearest.natAbs_le m.code).trans (natAbs_signedUnits_sub s m _)
  · cases y with
    | nan => cases hy
    | signed s m =>
      have hone : (one : ℝ) ≠ 0 := Nat.cast_ne_zero.2 Magnitude.one_pos.ne'
      rw [abs_value_sub, abs_value_sub, div_left_inj' hone, Nat.cast_inj] at heq
      exact beq_iff_eq.2 (hnearest.even_of_tie hne heq)

end RecordFlow.Binary64
