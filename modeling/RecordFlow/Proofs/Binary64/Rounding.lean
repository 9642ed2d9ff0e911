import RecordFlow.Binary64.Decimal
import Mathlib.Tactic.Ring
import Mathlib.Tactic.Linarith

/-! # Rounding to the nearest magnitude

Every magnitude stands for the values between the midpoints to its two
neighbours, the midpoints included if its code is even. No value stands between
two codes, so a code with a value in its span is the one that the value is
rounded to.
-/

namespace RecordFlow.Binary64.Magnitude

theorem unitsOfCode_mantissa {s m : Nat} (hs : s = 0 ∨ fractionSize ≤ m) (hm : m < 2 * fractionSize) :
    unitsOfCode (s * fractionSize + m) = m * 2 ^ s := by
  rcases Nat.lt_or_ge m fractionSize with hlt | hge
  · obtain rfl : s = 0 := by omega
    simp [unitsOfCode, Nat.div_eq_of_lt hlt]
  · have hdiv : (s * fractionSize + m) / fractionSize = s + 1 := by
      simp only [fractionSize] at *; omega
    have hmod : fractionSize + (s * fractionSize + m) % fractionSize = m := by
      simp only [fractionSize] at *; omega
    simp only [unitsOfCode, hdiv, hmod]
    simp

/-- The greatest mantissa may be one too large: then it has the value of the next scale. -/
theorem unitsOfCode_mantissa_le {s m : Nat} (hs : s = 0 ∨ fractionSize ≤ m)
    (hm : m ≤ 2 * fractionSize) : unitsOfCode (s * fractionSize + m) = m * 2 ^ s := by
  rcases Nat.lt_or_ge m (2 * fractionSize) with hlt | hge
  · exact unitsOfCode_mantissa hs hlt
  · obtain rfl : m = 2 * fractionSize := by omega
    have hcode : s * fractionSize + 2 * fractionSize = (s + 1) * fractionSize + fractionSize := by
      simp only [fractionSize]; omega
    rw [hcode, unitsOfCode_mantissa (.inr (Nat.le_refl _)) (by decide), Nat.pow_succ]
    ring

theorem exists_mantissa (code : Nat) :
    ∃ s m, code = s * fractionSize + m ∧ (s = 0 ∨ fractionSize ≤ m) ∧ m < 2 * fractionSize := by
  rcases Nat.lt_or_ge code fractionSize with hlt | hge
  · exact ⟨0, code, by simp, .inl rfl, by omega⟩
  · refine ⟨code / fractionSize - 1, fractionSize + code % fractionSize, ?_, .inr ?_, ?_⟩ <;>
      simp only [fractionSize] at * <;> omega

theorem unitsOfCode_lt_succ (code : Nat) : unitsOfCode code < unitsOfCode (code + 1) := by
  obtain ⟨s, m, rfl, hs, hm⟩ := exists_mantissa code
  rw [Nat.add_assoc, unitsOfCode_mantissa hs hm, unitsOfCode_mantissa_le (by omega) (by omega)]
  exact Nat.mul_lt_mul_of_pos_right (Nat.lt_succ_self m) (Nat.two_pow_pos s)

theorem unitsOfCode_strictMono {a b : Nat} (h : a < b) : unitsOfCode a < unitsOfCode b := by
  induction h with
  | refl => exact unitsOfCode_lt_succ a
  | step _ ih => exact Nat.lt_trans ih (unitsOfCode_lt_succ _)

theorem unitsOfCode_mono {a b : Nat} (h : a ≤ b) : unitsOfCode a ≤ unitsOfCode b := by
  rcases Nat.eq_or_lt_of_le h with rfl | h
  · exact Nat.le_refl _
  · exact Nat.le_of_lt (unitsOfCode_strictMono h)

theorem unitsOfCode_pred_lt {code : Nat} (h : code ≠ 0) :
    unitsOfCode (code - 1) < unitsOfCode code :=
  unitsOfCode_strictMono (by omega)

@[simp] theorem unitsOfCode_zero : unitsOfCode 0 = 0 := by decide

theorem unitsOfCode_pos {code : Nat} (h : code ≠ 0) : 0 < unitsOfCode code := by
  have := unitsOfCode_strictMono (Nat.pos_of_ne_zero h)
  omega

/-- The value `num / den` lies between the midpoints from a code to its neighbours. -/
structure Nearest (code num den : Nat) : Prop where
  low : (unitsOfCode code + unitsOfCode (code - 1)) * den ≤ 2 * num
  high : 2 * num ≤ (unitsOfCode code + unitsOfCode (code + 1)) * den
  even_of_low : (unitsOfCode code + unitsOfCode (code - 1)) * den = 2 * num → code % 2 = 0
  even_of_high : 2 * num = (unitsOfCode code + unitsOfCode (code + 1)) * den → code % 2 = 0

theorem Nearest.not_lt {a b num den : Nat} (hden : 0 < den) (ha : Nearest a num den)
    (hb : Nearest b num den) : ¬ a < b := by
  intro hab
  -- the upper midpoint of `a` is not above the lower midpoint of `b`
  have hmid : (unitsOfCode a + unitsOfCode (a + 1)) * den ≤
      (unitsOfCode b + unitsOfCode (b - 1)) * den := by
    refine Nat.mul_le_mul_right _ ?_
    have h1 := unitsOfCode_mono (a := a + 1) (b := b) hab
    have h2 := unitsOfCode_mono (a := a) (b := b - 1) (by omega)
    omega
  have hhigh := ha.high
  have hlow := hb.low
  have ha_even := ha.even_of_high (by omega)
  have hb_even := hb.even_of_low (by omega)
  have heq : unitsOfCode a + unitsOfCode (a + 1) = unitsOfCode b + unitsOfCode (b - 1) :=
    Nat.eq_of_mul_eq_mul_right hden (by omega)
  rcases Nat.eq_or_lt_of_le (show a + 1 ≤ b from hab) with h | h
  · omega
  · have h1 := unitsOfCode_strictMono (a := a + 1) (b := b) h
    have h2 := unitsOfCode_mono (a := a) (b := b - 1) (by omega)
    omega

/-- A value lies in the span of one code only. -/
theorem Nearest.unique {a b num den : Nat} (hden : 0 < den) (ha : Nearest a num den)
    (hb : Nearest b num den) : a = b := by
  have h1 := ha.not_lt hden hb
  have h2 := hb.not_lt hden ha
  omega

theorem nearest_mul_right {code num den k : Nat} (hk : 0 < k) :
    Nearest code (num * k) (den * k) ↔ Nearest code num den := by
  have hmul (a : Nat) : a * (den * k) = a * den * k := (Nat.mul_assoc ..).symm
  have htwice : 2 * (num * k) = 2 * num * k := (Nat.mul_assoc ..).symm
  constructor
  · rintro ⟨h1, h2, h3, h4⟩
    simp only [hmul, htwice, Nat.mul_left_inj (Nat.ne_of_gt hk)] at h1 h2 h3 h4
    exact ⟨Nat.le_of_mul_le_mul_right h1 hk, Nat.le_of_mul_le_mul_right h2 hk, h3, h4⟩
  · rintro ⟨h1, h2, h3, h4⟩
    refine ⟨?_, ?_, ?_, ?_⟩ <;> simp only [hmul, htwice, Nat.mul_left_inj (Nat.ne_of_gt hk)]
    · exact Nat.mul_le_mul_right _ h1
    · exact Nat.mul_le_mul_right _ h2
    · exact h3
    · exact h4

theorem roundHalfEven_spec (num : Nat) {den : Nat} (hden : 0 < den) :
    2 * (roundHalfEven num den * den) ≤ 2 * num + den ∧
      2 * num ≤ 2 * (roundHalfEven num den * den) + den ∧
      (2 * (roundHalfEven num den * den) = 2 * num + den ∨
        2 * num = 2 * (roundHalfEven num den * den) + den → roundHalfEven num den % 2 = 0) := by
  have hdiv : num / den * den + num % den = num := Nat.div_add_mod' num den
  have hmod : num % den < den := Nat.mod_lt _ hden
  simp only [roundHalfEven]
  split
  · omega
  split
  · rw [Nat.add_mul, Nat.one_mul]; omega
  split
  · omega
  · rw [Nat.add_mul, Nat.one_mul]; omega

theorem roundHalfEven_le (num den : Nat) :
    num / den ≤ roundHalfEven num den ∧ roundHalfEven num den ≤ num / den + 1 := by
  simp only [roundHalfEven]
  repeat' split
  all_goals omega

theorem scale_spec (units : Nat) :
    (scale units = 0 ∨ fractionSize * 2 ^ scale units ≤ units) ∧
      units < 2 * fractionSize * 2 ^ scale units := by
  by_cases h : units < 2 * fractionSize
  · have hscale : scale units = 0 := if_pos h
    rw [hscale]
    exact ⟨.inl rfl, by omega⟩
  · have hne : units ≠ 0 := by rintro rfl; exact h (by decide)
    have hscale : scale units = units.log2 - 52 := if_neg h
    have hlog : 53 ≤ units.log2 := (Nat.le_log2 hne).2 (by simpa [fractionSize] using h)
    constructor
    · right
      calc fractionSize * 2 ^ scale units = 2 ^ units.log2 := by
            rw [hscale, show fractionSize = 2 ^ 52 by decide, ← Nat.pow_add]
            congr 1; omega
        _ ≤ units := Nat.log2_self_le hne
    · calc units < 2 ^ (units.log2 + 1) := Nat.lt_log2_self
        _ = 2 * fractionSize * 2 ^ scale units := by
            rw [hscale, show 2 * fractionSize = 2 ^ 53 by decide, ← Nat.pow_add]
            congr 1; omega

theorem midpoint_below {s r : Nat} (hs : s = 0 ∨ fractionSize < r) (hr : r ≤ 2 * fractionSize)
    (hpos : 0 < r) :
    unitsOfCode (s * fractionSize + r) + unitsOfCode (s * fractionSize + r - 1) =
      (2 * r - 1) * 2 ^ s := by
  have hpred : s * fractionSize + r - 1 = s * fractionSize + (r - 1) := by omega
  rw [hpred, unitsOfCode_mantissa_le (by omega) hr, unitsOfCode_mantissa_le (by omega) (by omega),
    ← Nat.add_mul]
  congr 1; omega

theorem midpoint_above {s r : Nat} (hs : s = 0 ∨ fractionSize ≤ r) (hr : r < 2 * fractionSize) :
    unitsOfCode (s * fractionSize + r) + unitsOfCode (s * fractionSize + r + 1) =
      (2 * r + 1) * 2 ^ s := by
  rw [Nat.add_assoc, unitsOfCode_mantissa hs hr, unitsOfCode_mantissa_le (by omega) (by omega),
    ← Nat.add_mul]
  congr 1; omega

/-- The code that a value is rounded to, be it above the code of infinity. -/
def roundCode (num den : Nat) : Nat :=
  let shift := scale (num / den)
  shift * fractionSize + roundHalfEven num (den * 2 ^ shift)

theorem code_round (num den : Nat) : (round num den).code = min infinityCode (roundCode num den) :=
  rfl

theorem midpoint_below_le {s r num den : Nat} (hs : s = 0 ∨ fractionSize ≤ r)
    (hr : r ≤ 2 * fractionSize) (hlow : s = 0 ∨ fractionSize * (den * 2 ^ s) ≤ num)
    (hbelow : 2 * (r * (den * 2 ^ s)) ≤ 2 * num + den * 2 ^ s)
    (heven : 2 * (r * (den * 2 ^ s)) = 2 * num + den * 2 ^ s → r % 2 = 0) :
    (unitsOfCode (s * fractionSize + r) + unitsOfCode (s * fractionSize + r - 1)) * den ≤ 2 * num ∧
      ((unitsOfCode (s * fractionSize + r) + unitsOfCode (s * fractionSize + r - 1)) * den = 2 * num →
        r % 2 = 0) := by
  by_cases hzero : r = 0
  · obtain rfl : s = 0 := by simp only [fractionSize] at hs; omega
    simp [hzero]
  by_cases hleast : s ≠ 0 ∧ r = fractionSize
  · -- the place below the least mantissa is smaller, and the value is not below the mantissa
    refine ⟨?_, fun _ => by rw [hleast.2]; decide⟩
    have hpred := unitsOfCode_mono (Nat.sub_le (s * fractionSize + r) 1)
    calc (unitsOfCode (s * fractionSize + r) + unitsOfCode (s * fractionSize + r - 1)) * den
        ≤ (2 * unitsOfCode (s * fractionSize + r)) * den := Nat.mul_le_mul_right _ (by omega)
      _ = 2 * (fractionSize * (den * 2 ^ s)) := by
          rw [unitsOfCode_mantissa_le hs hr, hleast.2]; ring
      _ ≤ 2 * num := Nat.mul_le_mul_left 2 (hlow.resolve_left hleast.1)
  · have hsum : (2 * r - 1) * 2 ^ s * den + den * 2 ^ s = 2 * (r * (den * 2 ^ s)) := by
      calc (2 * r - 1) * 2 ^ s * den + den * 2 ^ s = (2 * r - 1 + 1) * (den * 2 ^ s) := by ring
        _ = 2 * (r * (den * 2 ^ s)) := by rw [show 2 * r - 1 + 1 = 2 * r by omega]; ring
    rw [midpoint_below (by omega) hr (by omega)]
    exact ⟨by omega, fun h => heven (by omega)⟩

theorem le_midpoint_above {s r num den : Nat} (hs : s = 0 ∨ fractionSize ≤ r)
    (hr : r ≤ 2 * fractionSize) (hhigh : num < 2 * fractionSize * (den * 2 ^ s))
    (habove : 2 * num ≤ 2 * (r * (den * 2 ^ s)) + den * 2 ^ s)
    (heven : 2 * num = 2 * (r * (den * 2 ^ s)) + den * 2 ^ s → r % 2 = 0) :
    2 * num ≤ (unitsOfCode (s * fractionSize + r) + unitsOfCode (s * fractionSize + r + 1)) * den ∧
      (2 * num = (unitsOfCode (s * fractionSize + r) + unitsOfCode (s * fractionSize + r + 1)) * den →
        r % 2 = 0) := by
  by_cases hgreatest : r = 2 * fractionSize
  · -- the mantissa is one too large, and the value is below it
    refine ⟨?_, fun _ => by rw [hgreatest]; decide⟩
    have hsucc := unitsOfCode_lt_succ (s * fractionSize + r)
    calc 2 * num ≤ 2 * (2 * fractionSize * (den * 2 ^ s)) := Nat.mul_le_mul_left 2 hhigh.le
      _ = (2 * unitsOfCode (s * fractionSize + r)) * den := by
          rw [unitsOfCode_mantissa_le hs hr, hgreatest]; ring
      _ ≤ _ := Nat.mul_le_mul_right _ (by omega)
  · have hsum : (2 * r + 1) * 2 ^ s * den = 2 * (r * (den * 2 ^ s)) + den * 2 ^ s := by ring
    rw [midpoint_above hs (by omega)]
    exact ⟨by omega, fun h => heven (by omega)⟩

/-- A mantissa at most half a place away from a value, even if it is half a place away, gives the
code that the value belongs to. -/
theorem nearest_mantissa {s r num den : Nat} (hs : s = 0 ∨ fractionSize ≤ r)
    (hr : r ≤ 2 * fractionSize) (hlow : s = 0 ∨ fractionSize * (den * 2 ^ s) ≤ num)
    (hhigh : num < 2 * fractionSize * (den * 2 ^ s))
    (hbelow : 2 * (r * (den * 2 ^ s)) ≤ 2 * num + den * 2 ^ s)
    (habove : 2 * num ≤ 2 * (r * (den * 2 ^ s)) + den * 2 ^ s)
    (heven : 2 * (r * (den * 2 ^ s)) = 2 * num + den * 2 ^ s ∨
      2 * num = 2 * (r * (den * 2 ^ s)) + den * 2 ^ s → r % 2 = 0) :
    Nearest (s * fractionSize + r) num den := by
  have hparity : (s * fractionSize + r) % 2 = r % 2 := by simp only [fractionSize]; omega
  obtain ⟨hlower, hlower_even⟩ := midpoint_below_le hs hr hlow hbelow fun h => heven (.inl h)
  obtain ⟨hupper, hupper_even⟩ := le_midpoint_above hs hr hhigh habove fun h => heven (.inr h)
  exact ⟨hlower, hupper, fun h => hparity.trans (hlower_even h), fun h => hparity.trans (hupper_even h)⟩

/-- Rounding finds the code in whose span the value lies. -/
theorem nearest_roundCode {num den : Nat} (hden : 0 < den) : Nearest (roundCode num den) num den := by
  have hscale := scale_spec (num / den)
  simp only [roundCode]
  generalize scale (num / den) = s at hscale
  have hwidth : 0 < den * 2 ^ s := Nat.mul_pos hden (Nat.two_pow_pos s)
  have hmantissa := roundHalfEven_le num (den * 2 ^ s)
  obtain ⟨hbelow, habove, heven⟩ := roundHalfEven_spec num hwidth
  have hhigh : num < 2 * fractionSize * (den * 2 ^ s) := by
    calc num < 2 * fractionSize * 2 ^ s * den := (Nat.div_lt_iff_lt_mul hden).1 hscale.2
      _ = 2 * fractionSize * (den * 2 ^ s) := by ring
  have hlow : s = 0 ∨ fractionSize * (den * 2 ^ s) ≤ num := by
    refine hscale.1.imp_right fun h => ?_
    calc fractionSize * (den * 2 ^ s) = fractionSize * 2 ^ s * den := by ring
      _ ≤ num := (Nat.le_div_iff_mul_le hden).1 h
  refine nearest_mantissa ?_ ?_ hlow hhigh hbelow habove heven
  · refine hlow.imp_right fun h => ?_
    have := (Nat.le_div_iff_mul_le hwidth).2 h
    omega
  · have := (Nat.div_lt_iff_lt_mul hwidth).2 hhigh
    omega

theorem Nearest.code_round_eq {code num den : Nat} (hden : 0 < den) (hcode : code ≤ infinityCode)
    (h : Nearest code num den) : (round num den).code = code := by
  rw [code_round, (nearest_roundCode hden).unique hden h]
  exact Nat.min_eq_right hcode

end RecordFlow.Binary64.Magnitude
