import RecordFlow.Proofs.Binary64.Value

/-! # Powers of ten

A whole number that is a small number times a power of two is exact, so the powers of
ten up to `10 ^ 22` are. A product of exact numbers is rounded once, and hence repeated
squaring finds each of these powers.
-/

namespace RecordFlow.Binary64

theorem exact_ten_pow {k : Nat} (hk : k ≤ 22) : Exact (10 ^ k) := by
  rw [show 10 = 5 * 2 by rfl, Nat.mul_pow]
  refine exact_mul_two_pow ?_ (by omega)
  calc 5 ^ k ≤ 5 ^ 22 := Nat.pow_le_pow_right (by decide) hk
    _ ≤ 2 * fractionSize := by decide

namespace Magnitude

/-- What a quotient is rounded to depends on its value only. -/
theorem round_mul_right {num den k : Nat} (hden : 0 < den) (hk : 0 < k) : round (num * k) (den * k) = round num den := by
  have hnearest : Nearest (roundCode (num * k) (den * k)) num den :=
    (nearest_mul_right hk).1 (nearest_roundCode (Nat.mul_pos hden hk))
  have hcode : (round (num * k) (den * k)).code = (round num den).code := by
    rw [code_round, code_round, hnearest.unique hden (nearest_roundCode hden)]
  cases hl : round (num * k) (den * k)
  cases hr : round num den
  simpa [hl, hr] using hcode

end Magnitude

theorem mul_ofInt {a b : Int} (ha : Exact a.natAbs) (hb : Exact b.natAbs) (hane : a ≠ 0) (hbne : b ≠ 0) :
    (ofInt a).mul (ofInt b) = ofInt (a * b) := by
  have hsign : (decide (a < 0) != decide (b < 0)) = decide (a * b < 0) := by
    rcases Int.lt_or_gt_of_ne hane with ha | ha <;> rcases Int.lt_or_gt_of_ne hbne with hb | hb <;>
      simp [mul_neg_iff, ha, hb, ha.not_gt, hb.not_gt]
  have hround : Magnitude.round (a.natAbs * one * (b.natAbs * one)) one =
      Magnitude.round ((a * b).natAbs * one) 1 := by
    have hproduct : a.natAbs * one * (b.natAbs * one) = (a * b).natAbs * one * one := by
      rw [Int.natAbs_mul]
      ring
    rw [hproduct, ← Magnitude.round_mul_right Nat.one_pos Magnitude.one_pos, Nat.one_mul]
  simp only [ofInt, mul, ha.finite, hb.finite, Bool.and_self, if_true, ha.units, hb.units, hsign, hround]

theorem mul_ten_pow {a b : Nat} (ha : a ≤ 22) (hb : b ≤ 22) :
    (ofNat (10 ^ a)).mul (ofNat (10 ^ b)) = ofNat (10 ^ (a + b)) := by
  have hne (k : Nat) : ((10 ^ k : Nat) : Int) ≠ 0 := Int.natCast_ne_zero.2 (Nat.pow_pos (by decide)).ne'
  have hmul := mul_ofInt (a := (10 ^ a : Nat)) (b := (10 ^ b : Nat)) (exact_ten_pow ha) (exact_ten_pow hb)
    (hne a) (hne b)
  rw [← Int.natCast_mul, ← Nat.pow_add] at hmul
  exact hmul

/-- Squaring stays exact as long as a power is not beyond `10 ^ 22`; the last square is not used. -/
theorem squaring_ten {i j e : Nat} (h : i + j * e ≤ 22) :
    squaring (ofNat (10 ^ i)) (ofNat (10 ^ j)) e = ofNat (10 ^ (i + j * e)) := by
  induction e using Nat.strongRecOn generalizing i j with
  | ind e ih =>
    unfold squaring
    split
    · next hzero => rw [hzero, Nat.mul_zero, Nat.add_zero]
    · next hpos =>
      have hj : j * 1 ≤ j * e := Nat.mul_le_mul_left j (Nat.one_le_iff_ne_zero.2 hpos)
      have hhalf : 2 * (j * (e / 2)) + j * (e % 2) = j * e := by
        rw [Nat.mul_left_comm, ← Nat.mul_add, Nat.div_add_mod]
      have hrest : (j + j) * (e / 2) = 2 * (j * (e / 2)) := by rw [← Nat.two_mul, Nat.mul_assoc]
      rw [mul_ten_pow (a := j) (b := j) (by omega) (by omega)]
      split
      · next hodd =>
        rw [hodd] at hhalf
        rw [mul_ten_pow (by omega) (by omega), ih (e / 2) (by omega) (by omega), hrest]
        congr 2
        omega
      · next heven =>
        rw [show e % 2 = 0 by omega] at hhalf
        rw [ih (e / 2) (by omega) (by omega), hrest]
        congr 2
        omega

theorem power_ten {k : Nat} (hk : k ≤ 22) : power (ofNat 10) k = ofNat (10 ^ k) := by
  have hsquaring := squaring_ten (i := 0) (j := 1) (e := k) (by omega)
  rw [Nat.zero_add, Nat.one_mul] at hsquaring
  rw [power, if_neg (by omega)]
  exact hsquaring

end RecordFlow.Binary64
