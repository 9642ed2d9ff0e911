import RecordFlow.Proofs.Binary64.Decimal
import RecordFlow.Proofs.Json.Equality

/-! # Whole numbers as floating point numbers

Rounding never turns the order of two values around. A whole number up to `2 ^ 53` is
exact, so of two different whole numbers with the same sign the nearest floating point
numbers differ if one of the two is smaller than `2 ^ 53`.
-/

namespace RecordFlow.Binary64

namespace Magnitude

theorem Nearest.mono {a b num num' den : Nat} (hden : 0 < den) (ha : Nearest a num den)
    (hb : Nearest b num' den) (h : num ≤ num') : a ≤ b := by
  rcases Nat.eq_or_lt_of_le h with rfl | hlt
  · exact (ha.unique hden hb).le
  · by_contra hba
    -- the upper midpoint of `b` is not above the lower midpoint of `a`
    have hmid : (unitsOfCode b + unitsOfCode (b + 1)) * den ≤
        (unitsOfCode a + unitsOfCode (a - 1)) * den := by
      refine Nat.mul_le_mul_right _ ?_
      have h1 := unitsOfCode_mono (a := b + 1) (b := a) (by omega)
      have h2 := unitsOfCode_mono (a := b) (b := a - 1) (by omega)
      omega
    have hlow := ha.low
    have hhigh := hb.high
    omega

def codeOfNat (n : Nat) : Nat := (round (n * one) 1).code

theorem codeOfNat_mono {m n : Nat} (h : m ≤ n) : codeOfNat m ≤ codeOfNat n := by
  have hnearest (k : Nat) : Nearest (roundCode (k * one) 1) (k * one) 1 := nearest_roundCode Nat.one_pos
  have hcode := (hnearest m).mono Nat.one_pos (hnearest n) (Nat.mul_le_mul_right one h)
  simp only [codeOfNat, code_round]
  omega

theorem nearest_unitsOfCode (code : Nat) : Nearest code (unitsOfCode code) 1 := by
  have hpred := unitsOfCode_mono (Nat.sub_le code 1)
  have hsucc := unitsOfCode_lt_succ code
  refine ⟨by omega, by omega, fun h => ?_, by omega⟩
  by_cases hzero : code = 0
  · rw [hzero]
  · have := unitsOfCode_pred_lt hzero
    omega

/-- Scaled by a power of two, a whole number that is not too large becomes a mantissa. -/
theorem exists_mantissa_of_nat {n : Nat} (hpos : 0 < n) (hn : n ≤ 2 * fractionSize) :
    ∃ k ≤ 52, fractionSize ≤ n * 2 ^ k ∧ n * 2 ^ k ≤ 2 * fractionSize := by
  by_cases hlarge : fractionSize ≤ n
  · exact ⟨0, by omega, by omega, by omega⟩
  · have hlog : n.log2 < 52 := (Nat.log2_lt (by omega)).2 (by simpa [fractionSize] using hlarge)
    refine ⟨52 - n.log2, by omega, ?_, ?_⟩
    · calc fractionSize = 2 ^ n.log2 * 2 ^ (52 - n.log2) := by
            rw [← Nat.pow_add, show n.log2 + (52 - n.log2) = 52 by omega]
            decide
        _ ≤ n * 2 ^ (52 - n.log2) := Nat.mul_le_mul_right _ (Nat.log2_self_le (by omega))
    · calc n * 2 ^ (52 - n.log2) ≤ 2 ^ (n.log2 + 1) * 2 ^ (52 - n.log2) :=
            Nat.mul_le_mul_right _ Nat.lt_log2_self.le
        _ = 2 * fractionSize := by
            rw [← Nat.pow_add, show n.log2 + 1 + (52 - n.log2) = 53 by omega]
            decide

theorem exists_code_of_nat {n : Nat} (hn : n ≤ 2 * fractionSize) :
    ∃ code ≤ infinityCode, unitsOfCode code = n * one := by
  rcases Nat.eq_zero_or_pos n with rfl | hpos
  · exact ⟨0, Nat.zero_le _, by simp⟩
  · obtain ⟨k, hk, hlow, hhigh⟩ := exists_mantissa_of_nat hpos hn
    obtain ⟨e, he⟩ : ∃ e, e = 1074 := ⟨_, rfl⟩
    refine ⟨(e - k) * fractionSize + n * 2 ^ k, ?_, ?_⟩
    · simp only [infinityCode, fractionSize] at *
      omega
    · rw [unitsOfCode_mantissa_le (.inr hlow) hhigh, one_eq he, Nat.mul_assoc, ← Nat.pow_add,
        show k + (e - k) = e by omega]

theorem unitsOfCode_codeOfNat {n : Nat} (hn : n ≤ 2 * fractionSize) : unitsOfCode (codeOfNat n) = n * one := by
  obtain ⟨code, hle, hcode⟩ := exists_code_of_nat hn
  have hnearest := nearest_unitsOfCode code
  rw [hcode] at hnearest
  rw [codeOfNat, hnearest.code_round_eq Nat.one_pos hle, hcode]

theorem codeOfNat_lt {m n : Nat} (hm : m < 2 * fractionSize) (h : m < n) : codeOfNat m < codeOfNat n := by
  refine Nat.lt_of_lt_of_le ?_ (codeOfNat_mono h)
  by_contra hle
  have hunits := unitsOfCode_mono (Nat.not_lt.1 hle)
  rw [unitsOfCode_codeOfNat hm, unitsOfCode_codeOfNat hm.le] at hunits
  have := Nat.le_of_mul_le_mul_right hunits one_pos
  omega

end Magnitude

theorem place_ofInt (n : Int) :
    (ofInt n).place = if n < 0 then -(Magnitude.codeOfNat n.natAbs : Int) else Magnitude.codeOfNat n.natAbs := by
  simp [ofInt, place, orderKey, Magnitude.codeOfNat]

/-- The nearest floating point numbers stand in the order of the whole numbers, or share a place. -/
theorem place_ofInt_mono {a b : Int} (h : a ≤ b) : (ofInt a).place ≤ (ofInt b).place := by
  rw [place_ofInt, place_ofInt]
  split
  · split
    · have := Magnitude.codeOfNat_mono (show b.natAbs ≤ a.natAbs by omega)
      omega
    · omega
  · rw [if_neg (by omega)]
    have := Magnitude.codeOfNat_mono (show a.natAbs ≤ b.natAbs by omega)
    omega

theorem ofInt_ne_nan (n : Int) : ofInt n ≠ nan := Binary64.noConfusion

theorem plusZero_ofInt (n : Int) : (ofInt n).plusZero = ofInt n := by
  have hcode : n < 0 → (Magnitude.round (n.natAbs * one) 1).code ≠ 0 := by
    intro hn
    have := Magnitude.codeOfNat_lt (show 0 < 2 * fractionSize by decide) (show 0 < n.natAbs by omega)
    rw [Magnitude.codeOfNat, Magnitude.codeOfNat] at this
    omega
  by_cases hn : n < 0 <;> simp [ofInt, plusZero, hn, hcode]

theorem place_ofInt_eq_iff {a b : Int} : (ofInt a).place = (ofInt b).place ↔ ofInt a = ofInt b := by
  rw [place_eq_place_iff (ofInt_ne_nan a) (ofInt_ne_nan b), plusZero_ofInt, plusZero_ofInt]

/-- Whether whole numbers have different signs, or one of them is below `2 ^ 53` in magnitude. -/
def Apart (a b : Int) : Prop := (a < 0 ↔ 0 ≤ b) ∨ min a.natAbs b.natAbs < 0x20000000000000

theorem Apart.symm {a b : Int} (h : Apart a b) : Apart b a := by
  unfold Apart at h ⊢
  omega

theorem place_ofInt_lt {a b : Int} (hapart : Apart a b) (h : a < b) : (ofInt a).place < (ofInt b).place := by
  rw [place_ofInt, place_ofInt]
  rw [Apart, show 0x20000000000000 = 2 * fractionSize by decide] at hapart
  split
  · split
    · have := Magnitude.codeOfNat_lt (show b.natAbs < 2 * fractionSize by omega) (show b.natAbs < a.natAbs by omega)
      omega
    · have := Magnitude.codeOfNat_lt (show 0 < 2 * fractionSize by decide) (show 0 < a.natAbs by omega)
      omega
  · rw [if_neg (by omega)]
    have := Magnitude.codeOfNat_lt (show a.natAbs < 2 * fractionSize by omega) (show a.natAbs < b.natAbs by omega)
    omega

end RecordFlow.Binary64
