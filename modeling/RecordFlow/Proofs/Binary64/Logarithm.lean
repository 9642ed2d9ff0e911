import Mathlib.Analysis.Complex.ExponentialBounds
import Mathlib.Analysis.SpecialFunctions.Log.Base
import Mathlib.Data.Fintype.Option
import RecordFlow.Binary64.Logarithm
import RecordFlow.Proofs.Binary64.Powers

/-! # Logarithms of whole numbers

The logarithm of a whole number with few digits, rounded down, is one less than the
number of its digits. From fifteen digits on, the numbers right below a power of ten have
a logarithm whose nearest floating point number is the exponent of that power.
-/

namespace RecordFlow.Binary64

/-- A finite number such that no other one is closer to a real number. -/
structure NearestTo (x : Binary64) (r : ℝ) : Prop where
  finite : x.isFinite
  le : ∀ y : Binary64, y.isFinite → |(x.value : ℝ) - r| ≤ |(y.value : ℝ) - r|

instance : Finite Magnitude :=
  Finite.of_injective (fun m => (⟨m.code, Nat.lt_succ_of_le m.code_le⟩ : Fin (infinityCode + 1))) fun a b h => by
    cases a
    cases b
    simpa using h

instance : Finite Binary64 :=
  Finite.of_surjective (fun o : Option (Bool × Magnitude) => o.elim nan fun p => signed p.1 p.2) fun x => by
    cases x with
    | nan => exact ⟨none, rfl⟩
    | signed s m => exact ⟨some (s, m), rfl⟩

theorem exists_nearestTo (r : ℝ) : ∃ x : Binary64, x.NearestTo r := by
  have hzero : Nonempty { x : Binary64 // x.isFinite } := ⟨⟨zero, rfl⟩⟩
  obtain ⟨x, hx⟩ := Finite.exists_min fun x : { x : Binary64 // x.isFinite } => |(x.1.value : ℝ) - r|
  exact ⟨x.1, x.2, fun y hy => hx ⟨y, hy⟩⟩

namespace Magnitude

theorem digitCount_eq_iff {n d : Nat} (hn : n ≠ 0) : digitCount n = d + 1 ↔ 10 ^ d ≤ n ∧ n < 10 ^ (d + 1) := by
  have hlt := lt_ten_pow_digitCount n
  have hle := ten_pow_digitCount_le hn
  constructor
  · intro h
    rw [h] at hlt hle
    exact ⟨hle, hlt⟩
  · rintro ⟨hlow, hhigh⟩
    have h1 := (Nat.pow_lt_pow_iff_right (by decide)).1 (hlow.trans_lt hlt)
    have h2 := (Nat.pow_lt_pow_iff_right (by decide)).1 (hle.trans_lt hhigh)
    omega

theorem decade_eq {num den k : Nat} (hden : 0 < den) (hlow : 10 ^ k * den ≤ num) (hhigh : num < 10 ^ (k + 1) * den) :
    decade num den = k := by
  have hquotient : 10 ^ k ≤ num / den := (Nat.le_div_iff_mul_le hden).2 hlow
  have hpos := ten_pow_pos k
  have hle : den ≤ num := (Nat.le_mul_of_pos_left den hpos).trans hlow
  have hcount : digitCount (num / den) = k + 1 :=
    (digitCount_eq_iff (by omega)).2 ⟨hquotient, (Nat.div_lt_iff_lt_mul hden).2 hhigh⟩
  rw [decade, if_pos hle, hcount]
  omega

def unitsOfNat (n : Nat) : Nat := unitsOfCode (codeOfNat n)

theorem unitsOfNat_mono {m n : Nat} (h : m ≤ n) : unitsOfNat m ≤ unitsOfNat n := unitsOfCode_mono (codeOfNat_mono h)

end Magnitude

open Magnitude

theorem logarithmRoundsTo_iff {units d : Nat} (hd : 0 < d) : logarithmRoundsTo units d ↔
    (10 ^ d * one - units) * logarithmUnits * 2 ^ halfGapExponent d < naturalLogTen * (10 ^ d * one) := by
  have hne : (d : Int) ≠ 0 := by omega
  simp only [logarithmRoundsTo, ne_eq, hne, not_false_eq_true, decide_true, Bool.true_and, decide_eq_true_eq,
    Int.toNat_natCast, show (-(d : Int)).toNat = 0 by omega, Nat.pow_eq, Nat.pow_zero, Nat.mul_one,
    Nat.mul_comm one]

theorem logarithmRoundsTo_mono {a b d : Nat} (hd : 0 < d) (hab : a ≤ b) (h : logarithmRoundsTo a d) :
    logarithmRoundsTo b d := by
  rw [logarithmRoundsTo_iff hd] at h ⊢
  exact lt_of_le_of_lt (Nat.mul_le_mul_right _ (Nat.mul_le_mul_right _ (by omega))) h

/-- How far below `10 ^ d` a whole number of `d` digits may be for its logarithm to be rounded to `d`. -/
def logarithmReach : Nat → Nat
  | 15 => 2
  | 16 => 21
  | 17 => 407
  | 18 => 4031
  | 19 => 39935
  | 20 => 401408
  | _ => 0

/-- The least whole number whose logarithm is rounded to `d` or more. -/
def logarithmStart (d : Nat) : Nat := 10 ^ d - logarithmReach d

/-- Where a power has a reach, the logarithm of the number at its end is rounded up. -/
theorem roundsTo_start : ∀ d ≤ 20, logarithmReach d ≠ 0 → logarithmRoundsTo (unitsOfNat (logarithmStart d)) d := by
  decide +kernel

theorem not_roundsTo_before_start : ∀ d ≤ 20, d ≠ 0 →
    unitsOfNat (logarithmStart d - 1) < 10 ^ d * one ∧ ¬ logarithmRoundsTo (unitsOfNat (logarithmStart d - 1)) d := by
  decide +kernel

theorem not_roundsTo_power : ∀ d ≤ 20, ¬ logarithmRoundsTo (10 ^ d * one) (d + 1 : Nat) := by
  decide +kernel

theorem ne_zero_of_digitCount {n d : Nat} (hcount : digitCount n = d + 1) : n ≠ 0 := by
  rintro rfl
  simp [digitCount] at hcount

theorem unitsOfNat_bounds {n d : Nat} (hd : d ≤ 19) (hcount : digitCount n = d + 1) :
    10 ^ d * one ≤ unitsOfNat n ∧ unitsOfNat n ≤ 10 ^ (d + 1) * one := by
  obtain ⟨hlow, hhigh⟩ := (digitCount_eq_iff (ne_zero_of_digitCount hcount)).1 hcount
  constructor
  · exact (exact_ten_pow (by omega)).units.ge.trans (unitsOfNat_mono hlow)
  · exact (unitsOfNat_mono hhigh.le).trans (exact_ten_pow (by omega)).units.le

theorem reach_ne_zero_of_start_le {n d : Nat} (hcount : digitCount n = d + 1) (h : logarithmStart (d + 1) ≤ n) :
    logarithmReach (d + 1) ≠ 0 := by
  intro hzero
  obtain ⟨-, hhigh⟩ := (digitCount_eq_iff (ne_zero_of_digitCount hcount)).1 hcount
  rw [logarithmStart, hzero] at h
  omega

theorem floorLogTen_of_decade {m : Magnitude} {k : Nat} (h : decade m.units one = k) :
    m.floorLogTen = (if logarithmRoundsTo m.units (k + 1 : Nat) then k + 1 else k : Nat) := by
  simp only [Magnitude.floorLogTen, h, Nat.cast_ite, Nat.cast_succ]

theorem floorLogTen_round {n d : Nat} (hd : d ≤ 19) (hcount : digitCount n = d + 1) :
    (Magnitude.round (n * one) 1).floorLogTen = (if logarithmStart (d + 1) ≤ n then d + 1 else d : Nat) := by
  obtain ⟨hulow, huhigh⟩ := unitsOfNat_bounds hd hcount
  obtain ⟨hbefore, hnot⟩ := not_roundsTo_before_start (d + 1) (by omega) (Nat.succ_ne_zero d)
  rcases Nat.eq_or_lt_of_le huhigh with heq | hlt
  · -- the number is rounded to the power of ten itself
    have hstart : logarithmStart (d + 1) ≤ n := by
      by_contra h
      have := unitsOfNat_mono (show n ≤ logarithmStart (d + 1) - 1 by omega)
      omega
    have hdecade : decade (unitsOfNat n) one = (d + 1 : Nat) := by
      refine decade_eq Magnitude.one_pos heq.ge ?_
      rw [heq]
      exact Nat.mul_lt_mul_of_pos_right (Nat.pow_lt_pow_right (by decide) (Nat.lt_succ_self _)) Magnitude.one_pos
    have hpower := not_roundsTo_power (d + 1) (by omega)
    rw [← heq] at hpower
    rw [floorLogTen_of_decade (m := Magnitude.round (n * one) 1) hdecade, if_pos hstart]
    exact congrArg Nat.cast (if_neg hpower)
  · have hdecade : decade (unitsOfNat n) one = d := decade_eq Magnitude.one_pos hulow hlt
    rw [floorLogTen_of_decade (m := Magnitude.round (n * one) 1) hdecade]
    refine congrArg Nat.cast (if_congr ?_ rfl rfl)
    constructor
    · intro hrounds
      by_contra hstart
      exact hnot (logarithmRoundsTo_mono (Nat.succ_pos d) (unitsOfNat_mono (by omega)) hrounds)
    · intro hstart
      have hreach := reach_ne_zero_of_start_le hcount hstart
      exact logarithmRoundsTo_mono (Nat.succ_pos d) (unitsOfNat_mono hstart)
        (roundsTo_start (d + 1) (by omega) hreach)

/-- Half the gap from a whole number down to the next floating point number. -/
noncomputable def halfGap (d : Nat) : ℝ := 1 / 2 ^ halfGapExponent d

theorem halfGap_pos (d : Nat) : 0 < halfGap d := by
  unfold halfGap
  positivity

theorem units_before_whole : ∀ d ≤ 20, d ≠ 0 →
    codeOfNat d ≠ 0 ∧ unitsOfCode (codeOfNat d - 1) * 2 ^ halfGapExponent d + 2 * one =
      d * one * 2 ^ halfGapExponent d := by
  decide +kernel

theorem exact_of_le_twenty {d : Nat} (hd : d ≤ 20) : Exact d := by
  refine exact_of_le ?_
  simp only [fractionSize]
  omega

theorem value_ofNat_of_le {d : Nat} (hd : d ≤ 20) : ((ofNat d).value : ℝ) = d := by
  rw [Binary64.value_ofNat (exact_of_le_twenty hd), Rat.cast_natCast]

theorem exists_before_whole {d : Nat} (hd : d ≤ 20) (hne : d ≠ 0) : ∃ p : Binary64, p.isFinite ∧
    (p.value : ℝ) = d - 2 * halfGap d ∧ ∀ y : Binary64, y.isFinite → (y.value : ℝ) < d → y.value ≤ p.value := by
  obtain ⟨hcode, hunits⟩ := units_before_whole d hd hne
  have hle : codeOfNat d ≤ infinityCode := (Magnitude.round (d * one) 1).code_le
  have hfinite : codeOfNat d - 1 < infinityCode := by omega
  refine ⟨signed false ⟨codeOfNat d - 1, hfinite.le⟩, Magnitude.isFinite_iff.2 hfinite, ?_, ?_⟩
  · have hone : (0 : ℝ) < one := Nat.cast_pos.2 Magnitude.one_pos
    have hcast : (unitsOfCode (codeOfNat d - 1) : ℝ) * 2 ^ halfGapExponent d + 2 * one =
        d * one * 2 ^ halfGapExponent d := by exact_mod_cast hunits
    rw [value_signed_false, Rat.cast_div, Rat.cast_natCast, Rat.cast_natCast, div_eq_iff hone.ne', halfGap]
    show (unitsOfCode (codeOfNat d - 1) : ℝ) = _
    field_simp
    linarith
  · intro y hy hlt
    have hnan : y ≠ nan := Json.ne_nan_of_isFinite hy
    rw [← value_ofNat_of_le hd, Rat.cast_lt, ofNat,
      value_lt_value_iff hnan (ofInt_ne_nan d), place_ofInt, if_neg (by omega), Int.natAbs_natCast] at hlt
    rw [value_le_value_iff hnan Binary64.noConfusion]
    show y.place ≤ ((codeOfNat d - 1 : Nat) : Int)
    omega

section

variable {l : Binary64} {r : ℝ} {d : Nat}

/-- What lies in the half of the gap that is next to a whole number is rounded to it. -/
theorem NearestTo.floor_eq_of_close (hl : l.NearestTo r) (hd : d ≤ 20) (hne : d ≠ 0) (hlow : d - halfGap d < r)
    (hhigh : r ≤ d) : ⌊l.value⌋ = d := by
  obtain ⟨p, -, hp, hbelow⟩ := exists_before_whole hd hne
  have hwhole : ((ofNat d).value : ℝ) = d := value_ofNat_of_le (by omega)
  have hle := hl.le (ofNat d) (isFinite_ofNat (exact_of_le_twenty (by omega)))
  rw [hwhole, abs_of_nonneg (sub_nonneg.2 hhigh)] at hle
  have hupper := (le_abs_self _).trans hle
  have hlower := (neg_le_abs _).trans hle
  have heq : (l.value : ℝ) = d := by
    by_contra hdne
    have hlt : (l.value : ℝ) < d := lt_of_le_of_ne (by linarith) hdne
    have hlp : (l.value : ℝ) ≤ p.value := by exact_mod_cast hbelow l hl.finite hlt
    linarith
  rw [show l.value = (d : ℚ) by exact_mod_cast heq, Int.floor_natCast]

theorem NearestTo.floor_eq_of_far (hl : l.NearestTo r) (hd : d ≤ 19) (hlow : d ≤ r)
    (hhigh : r < (d + 1 : Nat) - halfGap (d + 1)) : ⌊l.value⌋ = d := by
  obtain ⟨p, hpfinite, hp, -⟩ := exists_before_whole (d := d + 1) (by omega) (Nat.succ_ne_zero d)
  have hwhole : ((ofNat d).value : ℝ) = d := value_ofNat_of_le (by omega)
  have hle := hl.le (ofNat d) (isFinite_ofNat (exact_of_le_twenty (by omega)))
  rw [hwhole, abs_of_nonpos (sub_nonpos.2 hlow)] at hle
  have hlower := (neg_le_abs _).trans hle
  have hgap := halfGap_pos (d + 1)
  have hlt : (l.value : ℝ) < (d + 1 : Nat) := by
    by_contra hge
    have hclose := (le_abs_self _).trans (hl.le p hpfinite)
    rcases le_total (p.value : ℝ) r with hpr | hpr
    · rw [abs_of_nonpos (sub_nonpos.2 hpr)] at hclose
      linarith
    · rw [abs_of_nonneg (sub_nonneg.2 hpr)] at hclose
      linarith
  refine Int.floor_eq_iff.2 ⟨?_, ?_⟩
  · have hdl : (d : ℝ) ≤ l.value := by linarith
    exact_mod_cast hdl
  · exact_mod_cast hlt

end

theorem log_ten_bounds : 2.302585092 < Real.log 10 ∧ Real.log 10 < 2.302585094 := by
  rw [Real.log_ten_eq]
  have h2 := Real.log_two_gt_d9
  have h2' := Real.log_two_lt_d9
  have h5 := Real.log_five_gt_d9
  have h5' := Real.log_five_lt_d9
  constructor <;> linarith

theorem lt_logb_of_close {v : ℝ} {d : Nat} (hv : 0 < v) (h : (10 ^ d - v) * 2 ^ halfGapExponent d < v * 2.302585092) :
    d - halfGap d < Real.logb 10 v := by
  have hten : 0 < Real.log 10 := by linarith [log_ten_bounds.1]
  have hpower : (0 : ℝ) < 10 ^ d := by positivity
  have hlog : 1 - 10 ^ d / v ≤ Real.log v - d * Real.log 10 := by
    have hinv := Real.one_sub_inv_le_log_of_pos (div_pos hv hpower)
    rwa [inv_div, Real.log_div hv.ne' hpower.ne', Real.log_pow] at hinv
  have hclose : (10 ^ d / v - 1) * 2 ^ halfGapExponent d < Real.log 10 := by
    rw [div_sub_one hv.ne', div_mul_eq_mul_div, div_lt_iff₀ hv, mul_comm (Real.log 10)]
    exact h.trans (mul_lt_mul_of_pos_left log_ten_bounds.1 hv)
  rw [Real.logb, lt_div_iff₀ hten, sub_mul, halfGap]
  have hgap : 10 ^ d / v - 1 < 1 / 2 ^ halfGapExponent d * Real.log 10 := by
    rw [one_div_mul_eq_div, lt_div_iff₀ (by positivity)]
    exact hclose
  linarith

/-- A value that is far enough below a power of ten is at least half the gap below it in logarithms. -/
theorem logb_lt_of_far {v : ℝ} {d : Nat} (hv : 0 < v)
    (h : 10 ^ d * 2.302585094 < (10 ^ d - v) * 2 ^ halfGapExponent d) : Real.logb 10 v < d - halfGap d := by
  have hten : 0 < Real.log 10 := by linarith [log_ten_bounds.1]
  have hpower : (0 : ℝ) < 10 ^ d := by positivity
  have hlog : Real.log v - d * Real.log 10 ≤ v / 10 ^ d - 1 := by
    have hsub := Real.log_le_sub_one_of_pos (div_pos hv hpower)
    rwa [Real.log_div hv.ne' hpower.ne', Real.log_pow] at hsub
  have hfar : Real.log 10 < (1 - v / 10 ^ d) * 2 ^ halfGapExponent d := by
    rw [one_sub_div hpower.ne', div_mul_eq_mul_div, lt_div_iff₀ hpower, mul_comm (Real.log 10)]
    exact (mul_lt_mul_of_pos_left log_ten_bounds.2 hpower).trans h
  rw [Real.logb, div_lt_iff₀ hten, sub_mul, halfGap]
  have hgap : 1 / 2 ^ halfGapExponent d * Real.log 10 < 1 - v / 10 ^ d := by
    rw [one_div_mul_eq_div, div_lt_iff₀ (by positivity)]
    exact hfar
  linarith

theorem start_close : ∀ d ≤ 20, logarithmReach d ≠ 0 →
    (10 ^ d * one - unitsOfNat (logarithmStart d)) * 2 ^ halfGapExponent d * 1000000000 <
      unitsOfNat (logarithmStart d) * 2302585092 := by
  decide +kernel

theorem before_start_far : ∀ d ≤ 20, d ≠ 0 → 10 ^ d * one * 2302585094 <
    (10 ^ d * one - unitsOfNat (logarithmStart d - 1)) * 2 ^ halfGapExponent d * 1000000000 := by
  decide +kernel

theorem value_mul_one (n : Nat) : ((ofNat n).value : ℝ) * one = unitsOfNat n := by
  have hone : (one : ℝ) ≠ 0 := Nat.cast_ne_zero.2 Magnitude.one_pos.ne'
  rw [ofNat_eq, value_signed_false, Rat.cast_div, Rat.cast_natCast, Rat.cast_natCast, div_mul_cancel₀ _ hone]
  rfl

theorem value_ofNat_bounds {n d : Nat} (hd : d ≤ 19) (hcount : digitCount n = d + 1) :
    (10 : ℝ) ^ d ≤ (ofNat n).value ∧ ((ofNat n).value : ℝ) ≤ 10 ^ (d + 1) := by
  have hone : (0 : ℝ) < one := Nat.cast_pos.2 Magnitude.one_pos
  obtain ⟨hlow, hhigh⟩ := unitsOfNat_bounds hd hcount
  constructor
  · refine le_of_mul_le_mul_right ?_ hone
    rw [value_mul_one]
    exact_mod_cast hlow
  · refine le_of_mul_le_mul_right ?_ hone
    rw [value_mul_one]
    exact_mod_cast hhigh

theorem close_of_start_le {n d : Nat} (hd : d ≤ 20) (hreach : logarithmReach d ≠ 0) (h : logarithmStart d ≤ n) :
    (10 ^ d - ((ofNat n).value : ℝ)) * 2 ^ halfGapExponent d < (ofNat n).value * 2.302585092 := by
  have hone : (0 : ℝ) < one := Nat.cast_pos.2 Magnitude.one_pos
  have hmono := unitsOfNat_mono h
  have hnat : (10 ^ d * one - unitsOfNat n) * 2 ^ halfGapExponent d * 1000000000 < unitsOfNat n * 2302585092 := by
    refine lt_of_le_of_lt ?_ ((start_close d hd hreach).trans_le (Nat.mul_le_mul_right _ hmono))
    exact Nat.mul_le_mul_right _ (Nat.mul_le_mul_right _ (by omega))
  have hcast : ((10 ^ d * one - unitsOfNat n : Nat) : ℝ) * 2 ^ halfGapExponent d * 1000000000 <
      unitsOfNat n * 2302585092 := by exact_mod_cast hnat
  have hsub : (10 : ℝ) ^ d * one ≤ (10 ^ d * one - unitsOfNat n : Nat) + unitsOfNat n := by
    exact_mod_cast le_tsub_add
  rw [← value_mul_one] at hcast hsub
  refine lt_of_mul_lt_mul_right ?_ hone.le
  calc (10 ^ d - ((ofNat n).value : ℝ)) * 2 ^ halfGapExponent d * one
      = (10 ^ d * one - (ofNat n).value * one) * 2 ^ halfGapExponent d := by ring
    _ ≤ (10 ^ d * one - unitsOfNat n : Nat) * 2 ^ halfGapExponent d := by
      gcongr
      linarith
    _ < (ofNat n).value * 2.302585092 * one := by linarith

theorem far_of_lt_start {n d : Nat} (hd : d ≤ 20) (hne : d ≠ 0) (h : n < logarithmStart d) :
    10 ^ d * 2.302585094 < (10 ^ d - ((ofNat n).value : ℝ)) * 2 ^ halfGapExponent d := by
  have hone : (0 : ℝ) < one := Nat.cast_pos.2 Magnitude.one_pos
  have hmono := unitsOfNat_mono (show n ≤ logarithmStart d - 1 by omega)
  have hnat : 10 ^ d * one * 2302585094 < (10 ^ d * one - unitsOfNat n) * 2 ^ halfGapExponent d * 1000000000 := by
    refine (before_start_far d hd hne).trans_le ?_
    exact Nat.mul_le_mul_right _ (Nat.mul_le_mul_right _ (by omega))
  have hcast : (10 : ℝ) ^ d * one * 2302585094 <
      (10 ^ d * one - unitsOfNat n : Nat) * 2 ^ halfGapExponent d * 1000000000 := by exact_mod_cast hnat
  have hle : unitsOfNat n ≤ 10 ^ d * one := hmono.trans (not_roundsTo_before_start d hd hne).1.le
  rw [Nat.cast_sub hle, ← value_mul_one] at hcast
  push_cast at hcast
  refine lt_of_mul_lt_mul_right ?_ hone.le
  calc 10 ^ d * 2.302585094 * (one : ℝ)
      < (10 ^ d * one - (ofNat n).value * one) * 2 ^ halfGapExponent d := by linarith
    _ = (10 ^ d - (ofNat n).value) * 2 ^ halfGapExponent d * one := by ring

theorem NearestTo.floor_logarithm {n d : Nat} {l : Binary64} (hd : d ≤ 19) (hcount : digitCount n = d + 1)
    (hl : l.NearestTo (Real.logb 10 (ofNat n).value)) :
    ⌊l.value⌋ = (if logarithmStart (d + 1) ≤ n then d + 1 else d : Nat) := by
  obtain ⟨hlow, hhigh⟩ := value_ofNat_bounds hd hcount
  have hpos : (0 : ℝ) < (ofNat n).value := lt_of_lt_of_le (by positivity) hlow
  split
  · next hstart =>
    have hreach : logarithmReach (d + 1) ≠ 0 := reach_ne_zero_of_start_le hcount hstart
    refine hl.floor_eq_of_close (by omega) (Nat.succ_ne_zero d) ?_ ?_
    · exact lt_logb_of_close hpos (close_of_start_le (by omega) hreach hstart)
    · rw [Real.logb_le_iff_le_rpow (by norm_num) hpos, Real.rpow_natCast]
      exact hhigh
  · next hstart =>
    refine hl.floor_eq_of_far hd ?_ ?_
    · rw [Real.le_logb_iff_rpow_le (by norm_num) hpos, Real.rpow_natCast]
      exact hlow
    · exact logb_lt_of_far hpos (far_of_lt_start (by omega) (Nat.succ_ne_zero d) (by omega))

end RecordFlow.Binary64
