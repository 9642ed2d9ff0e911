import RecordFlow.Json.Basic
import RecordFlow.Operator.Bin
import RecordFlow.Proofs.Binary64.Logarithm

/-! # Logarithmic bins of whole numbers

The bin of a whole number goes from one power of ten to the next. It contains the number
unless this stands so closely below a power of ten that its logarithm is rounded up to
the exponent of that power. A positive number then has the half of its bin in which it
lies. For a negative number the bin is not halved, but made five times as wide.
-/

namespace RecordFlow

open Binary64

variable {n : Int} {d k : Nat}

namespace Binary64

theorem round_ne_zero {m : Nat} (hm : m ≠ 0) : Magnitude.round (m * one) 1 ≠ .zero := by
  intro h
  have hlt := Magnitude.codeOfNat_lt (show 0 < 2 * fractionSize by decide) (Nat.pos_of_ne_zero hm)
  have hcode : Magnitude.codeOfNat m = 0 := congrArg Magnitude.code h
  omega

theorem ofInt_less_zero_iff : (ofInt n).less zero ↔ n < 0 := by
  rw [less_iff (ofInt_ne_nan n) Binary64.noConfusion, value_lt_value_iff (ofInt_ne_nan n) Binary64.noConfusion,
    place_zero, place_ofInt]
  have hlt := Magnitude.codeOfNat_lt (m := 0) (n := n.natAbs) (by decide)
  split <;> omega

theorem ofInt_less_ofInt_iff {a b : Int} (ha : Exact a.natAbs) (hb : Exact b.natAbs) :
    (ofInt a).less (ofInt b) ↔ a < b := by
  rw [less_iff (ofInt_ne_nan a) (ofInt_ne_nan b), value_ofInt ha, value_ofInt hb, Int.cast_lt]

end Binary64

namespace Bin

structure Between (bin : Bin) (a b : ℚ) : Prop where
  low_finite : bin.low.isFinite
  high_finite : bin.high.isFinite
  low : bin.low.value = a
  high : bin.high.value = b

/-- A value lies in a bin, the ends included. -/
def Contains (bin : Bin) (q : ℚ) : Prop := bin.low.value ≤ q ∧ q ≤ bin.high.value

theorem Between.contains_iff {bin : Bin} {a b q : ℚ} (h : bin.Between a b) : bin.Contains q ↔ a ≤ q ∧ q ≤ b := by
  rw [Contains, h.low, h.high]

def ofInts (a b : Int) : Bin := ⟨ofInt a, ofInt b⟩

theorem between_ofInts {a b : Int} (ha : Exact a.natAbs) (hb : Exact b.natAbs) : (ofInts a b).Between a b :=
  ⟨ha.finite, hb.finite, value_ofInt ha, value_ofInt hb⟩

/-- The bin between two consecutive powers of ten, or between their negations, on the side of zero on which `n`
lies. -/
def ofDecade (n : Int) (k : Nat) : Bin :=
  if 0 < n then ofInts (10 ^ k) (10 ^ (k + 1)) else ofInts (-10 ^ (k + 1)) (-10 ^ k)

theorem exact_natAbs_ten_pow (hk : k ≤ 22) : Exact ((10 : Int) ^ k).natAbs := by
  rw [Int.natAbs_pow]
  exact exact_ten_pow hk

theorem exact_natAbs_neg_ten_pow (hk : k ≤ 22) : Exact (-(10 : Int) ^ k).natAbs := by
  rw [Int.natAbs_neg]
  exact exact_natAbs_ten_pow hk

theorem between_ofDecade_of_pos (hn : 0 < n) (hk : k ≤ 21) : (ofDecade n k).Between (10 ^ k) (10 ^ (k + 1)) := by
  have h := between_ofInts (exact_natAbs_ten_pow (k := k) (by omega)) (exact_natAbs_ten_pow (k := k + 1) (by omega))
  rw [ofDecade, if_pos hn]
  exact_mod_cast h

theorem between_ofDecade_of_neg (hn : n < 0) (hk : k ≤ 21) : (ofDecade n k).Between (-10 ^ (k + 1)) (-10 ^ k) := by
  have h := between_ofInts (exact_natAbs_neg_ten_pow (k := k + 1) (by omega))
    (exact_natAbs_neg_ten_pow (k := k) (by omega))
  rw [ofDecade, if_neg hn.not_gt]
  exact_mod_cast h

theorem contains_ofDecade_iff (hn : n ≠ 0) (hk : k ≤ 21) :
    (ofDecade n k).Contains n ↔ 10 ^ k ≤ n.natAbs ∧ n.natAbs ≤ 10 ^ (k + 1) := by
  rcases Int.lt_or_gt_of_ne hn with hneg | hpos
  · rw [(between_ofDecade_of_neg hneg hk).contains_iff]
    have habs : (n : ℚ) = -(n.natAbs : ℕ) := by
      rw [Nat.cast_natAbs, abs_of_neg hneg, Int.cast_neg, neg_neg]
    rw [habs, neg_le_neg_iff, neg_le_neg_iff, and_comm]
    norm_cast
  · rw [(between_ofDecade_of_pos hpos hk).contains_iff]
    have habs : (n : ℚ) = (n.natAbs : ℕ) := by
      rw [Nat.cast_natAbs, abs_of_pos hpos]
    rw [habs]
    norm_cast

theorem exponentOf_ofInt (hd : d ≤ 19) (hcount : digitCount n.natAbs = d + 1) :
    exponentOf (ofInt n) = (if logarithmStart (d + 1) ≤ n.natAbs then d + 1 else d : Nat) := by
  have hne := round_ne_zero (ne_zero_of_digitCount hcount)
  rw [ofInt, exponentOf, if_neg hne, floorLogTen_round hd hcount]

theorem signedPower_of_pos (hn : 0 < n) (hk : k ≤ 22) : signedPower (ofInt n) k = ofInt (10 ^ k) := by
  have hless : ¬ (ofInt n).less zero := fun h => absurd (ofInt_less_zero_iff.1 h) hn.not_gt
  rw [signedPower, if_neg hless, power_ten hk, ofNat, Int.natCast_pow]
  rfl

theorem signedPower_of_neg (hn : n < 0) (hk : k ≤ 22) : signedPower (ofInt n) k = ofInt (-10 ^ k) := by
  have hpos : (0 : Int) < 10 ^ k := pow_pos (by decide) k
  rw [signedPower, if_pos (ofInt_less_zero_iff.2 hn), power_ten hk, ofNat, Int.natCast_pow]
  simp only [negate, ofInt, Int.natAbs_neg, Nat.cast_ofNat, Left.neg_neg_iff, hpos, hpos.not_gt, decide_true,
    decide_false, Bool.not_false]

theorem logarithmic_ofInt (hn : n ≠ 0) (hk : k ≤ 21) (he : exponentOf (ofInt n) = k) :
    logarithmic (ofInt n) = ofDecade n k := by
  rcases Int.lt_or_gt_of_ne hn with hneg | hpos
  · have hless : (ofInt (-10 ^ (k + 1))).less (ofInt (-10 ^ k)) := by
      rw [ofInt_less_ofInt_iff (exact_natAbs_neg_ten_pow (by omega)) (exact_natAbs_neg_ten_pow (by omega)),
        Int.neg_lt_neg_iff]
      exact pow_lt_pow_right₀ (by decide) k.lt_succ_self
    rw [logarithmic, he, ← Nat.cast_succ, signedPower_of_neg hneg (by omega), signedPower_of_neg hneg (by omega),
      ofEnds, if_pos hless, ofDecade, if_neg hneg.not_gt, ofInts]
  · have hless : ¬ (ofInt (10 ^ (k + 1))).less (ofInt (10 ^ k)) := by
      rw [ofInt_less_ofInt_iff (exact_natAbs_ten_pow (by omega)) (exact_natAbs_ten_pow (by omega)), not_lt]
      exact pow_le_pow_right₀ (by decide) k.le_succ
    rw [logarithmic, he, ← Nat.cast_succ, signedPower_of_pos hpos (by omega), signedPower_of_pos hpos (by omega),
      ofEnds, if_neg hless, ofDecade, if_pos hpos, ofInts]

theorem exists_digitCount (hn : n ≠ 0) (hword : FitsWord n) : ∃ d ≤ 19, digitCount n.natAbs = d + 1 := by
  have hle := Magnitude.ten_pow_digitCount_le (Int.natAbs_ne_zero.2 hn)
  have hlt := Magnitude.lt_ten_pow_digitCount n.natAbs
  cases hcount : digitCount n.natAbs with
  | zero =>
    rw [hcount] at hlt
    omega
  | succ d =>
    refine ⟨d, ?_, rfl⟩
    rw [hcount, Nat.add_sub_cancel] at hle
    by_contra hd
    have := Nat.pow_le_pow_right (show 0 < 10 by decide) (show 20 ≤ d by omega)
    omega

theorem abs_value_ofInt (n : Int) : |(ofInt n).value| = (ofNat n.natAbs).value := by
  rw [ofInt, abs_value, ofNat_eq, value_signed_false]

/-- The bin of a whole number contains it unless it stands closely below a power of ten. In this case the number
nearest to its logarithm, which there always is, comes to the count of its digits when it is rounded down. -/
theorem contains_logarithmic_iff (hn : n ≠ 0) (hword : FitsWord n) :
    let x := (Json.Number.integer n hword).toBinary64
    let bin := logarithmic x
    let logarithm := Real.logb 10 |(x.value : ℝ)|
    let digits := digitCount n.natAbs
    ∃ k : Nat, (∃ l : Binary64, l.NearestTo logarithm) ∧ (∀ l : Binary64, l.NearestTo logarithm → ⌊l.value⌋ = k) ∧
      (0 < n → bin.Between (10 ^ k) (10 ^ (k + 1))) ∧ (n < 0 → bin.Between (-10 ^ (k + 1)) (-10 ^ k)) ∧
      (bin.Contains n ↔ n.natAbs + logarithmReach digits < 10 ^ digits) ∧ (¬ bin.Contains n → k = digits) := by
  intro x bin logarithm digits
  obtain ⟨d, hd, hcount⟩ := exists_digitCount hn hword
  obtain ⟨hlow, hhigh⟩ := (Magnitude.digitCount_eq_iff (Int.natAbs_ne_zero.2 hn)).1 hcount
  have hdigits : digits = d + 1 := hcount
  have hexponent : exponentOf x = _ := exponentOf_ofInt hd hcount
  have hfloor (l : Binary64) (hl : l.NearestTo logarithm) :
      ⌊l.value⌋ = (if logarithmStart (d + 1) ≤ n.natAbs then d + 1 else d : Nat) := by
    unfold logarithm at hl
    rw [← Rat.cast_abs, show |x.value| = _ from abs_value_ofInt n] at hl
    exact hl.floor_logarithm hd hcount
  -- the bin and the nearest logarithm have the same exponent
  generalize hk : (if logarithmStart (d + 1) ≤ n.natAbs then d + 1 else d) = k at hexponent hfloor
  have hkle : k ≤ 21 := by split at hk <;> omega
  have hbin : bin = ofDecade n k := logarithmic_ofInt hn hkle hexponent
  have hstart : logarithmStart (d + 1) ≤ n.natAbs ↔ ¬ n.natAbs + logarithmReach (d + 1) < 10 ^ (d + 1) := by
    unfold logarithmStart
    omega
  have hcontains : bin.Contains n ↔ ¬ logarithmStart (d + 1) ≤ n.natAbs := by
    rw [hbin, contains_ofDecade_iff hn hkle]
    split at hk
    · next h => exact iff_of_false (by subst hk; omega) (not_not_intro h)
    · next h => exact iff_of_true (by subst hk; omega) h
  refine ⟨k, exists_nearestTo logarithm, hfloor, fun h => hbin ▸ between_ofDecade_of_pos h hkle, fun h => hbin ▸ between_ofDecade_of_neg h hkle,
    ?_, ?_⟩
  · rw [hcontains, hstart, not_not, hdigits]
  · intro h
    rw [if_pos (not_not.1 (hcontains.not.1 h))] at hk
    omega

/-- Fifteen nines are out of their bin, fourteen nines are not. -/
theorem contains_logarithmic_iff_nines :
    let bin (n : Int) (hword : FitsWord n) := logarithmic (Json.Number.integer n hword).toBinary64
    ¬ (bin 999999999999999 (by decide)).Contains (999999999999999 : Int) ∧
      (bin (-99999999999999) (by decide)).Contains (-99999999999999 : Int) := by
  obtain ⟨-, -, -, -, -, hfifteen, -⟩ := contains_logarithmic_iff (n := 999999999999999) (by decide) (by decide)
  obtain ⟨-, -, -, -, -, hfourteen, -⟩ := contains_logarithmic_iff (n := -99999999999999) (by decide) (by decide)
  exact ⟨hfifteen.not.2 (by decide +kernel), hfourteen.2 (by decide +kernel)⟩

def IsEnd (bin : Bin) (x : Binary64) : Prop := x.value = bin.low.value ∨ x.value = bin.high.value

def IsMiddle (bin : Bin) (x : Binary64) : Prop := |x.value| = max |bin.low.value| |bin.high.value| / 2

/-- A bin within another one that contains a value. One of its ends is an end of the other bin, the other one is
half the larger end in magnitude. -/
structure Halves (part bin : Bin) (q : ℚ) : Prop where
  low_finite : part.low.isFinite
  high_finite : part.high.isFinite
  low_le : bin.low.value ≤ part.low.value
  low_le_high : part.low.value ≤ part.high.value
  le_high : part.high.value ≤ bin.high.value
  contains : part.Contains q
  split : bin.IsEnd part.low ∧ ¬ bin.IsEnd part.high ∧ bin.IsMiddle part.high ∨
    ¬ bin.IsEnd part.low ∧ bin.IsEnd part.high ∧ bin.IsMiddle part.low

theorem half_ofInts {a b : Int} (ha : a.natAbs ≤ 2 ^ 50) (hne : a ≠ 0) (hn : n.natAbs ≤ 2 ^ 50) :
    (ofInts a b).half (ofInt n) = if n < a * 5 then ofInts a (a * 5) else ofInts (a * 5) b := by
  have hexact {m : Int} (hm : m.natAbs ≤ 2 ^ 53) : Exact m.natAbs := exact_of_le hm
  have hmiddle : (ofInt a).mul (ofNat 5) = ofInt (a * 5) :=
    mul_ofInt (hexact (by omega)) (exact_of_le (by decide)) hne (by decide)
  have hless : (ofInt n).less (ofInt (a * 5)) ↔ n < a * 5 :=
    ofInt_less_ofInt_iff (hexact (by omega)) (hexact (by omega))
  simp only [half, ofInts, hmiddle, hless]

section

variable {part bin : Bin} {a b c q : ℚ}

theorem isMiddle_of_between (hbin : bin.Between a (a * 10)) (ha : 0 < a) {x : Binary64} (hx : x.value = a * 5) :
    bin.IsMiddle x := by
  rw [IsMiddle, hbin.low, hbin.high, hx, abs_of_pos (by linarith), abs_of_pos ha, abs_of_pos (by linarith),
    max_eq_right (by linarith)]
  ring

/-- Both parts of a bin from a number to its tenfold are halves of it, if they are split at five times the number. -/
theorem Between.halves (hpart : part.Between b c) (hbin : bin.Between a (a * 10)) (ha : 0 < a)
    (hends : b = a ∧ c = a * 5 ∨ b = a * 5 ∧ c = a * 10) (hlow : b ≤ q) (hhigh : q ≤ c) : part.Halves bin q where
  low_finite := hpart.low_finite
  high_finite := hpart.high_finite
  low_le := by
    rw [hbin.low, hpart.low]
    rcases hends with ⟨rfl, -⟩ | ⟨rfl, -⟩ <;> linarith
  low_le_high := by
    rw [hpart.low, hpart.high]
    exact hlow.trans hhigh
  le_high := by
    rw [hbin.high, hpart.high]
    rcases hends with ⟨-, rfl⟩ | ⟨-, rfl⟩ <;> linarith
  contains := hpart.contains_iff.2 ⟨hlow, hhigh⟩
  split := by
    have hend (x : Binary64) : bin.IsEnd x ↔ x.value = a ∨ x.value = a * 10 := by
      rw [IsEnd, hbin.low, hbin.high]
    have hmiddle (x : Binary64) (hx : x.value = a * 5) : ¬ bin.IsEnd x ∧ bin.IsMiddle x := by
      refine ⟨?_, isMiddle_of_between hbin ha hx⟩
      rw [hend, hx]
      rintro (h | h) <;> linarith
    rcases hends with ⟨rfl, rfl⟩ | ⟨rfl, rfl⟩
    · exact .inl ⟨(hend _).2 (.inl hpart.low), hmiddle _ hpart.high⟩
    · obtain ⟨hnot, hlowMiddle⟩ := hmiddle _ hpart.low
      exact .inr ⟨hnot, (hend _).2 (.inr hpart.high), hlowMiddle⟩

end

/-- Up to fourteen digits no logarithm is rounded up. -/
theorem logarithmReach_eq_zero : ∀ d ≤ 14, logarithmReach d = 0 := by
  decide

theorem exists_logarithmic (hn : n ≠ 0) (hlt : n.natAbs < 10 ^ 14) :
    ∃ p : Int, 0 < p ∧ p ≤ 10 ^ 13 ∧ p ≤ n.natAbs ∧ n.natAbs ≤ p * 10 ∧
      logarithmic (ofInt n) = if 0 < n then ofInts p (p * 10) else ofInts (-(p * 10)) (-p) := by
  obtain ⟨d, hd, hcount⟩ := exists_digitCount hn ⟨by omega, by omega⟩
  obtain ⟨hlow, hhigh⟩ := (Magnitude.digitCount_eq_iff (Int.natAbs_ne_zero.2 hn)).1 hcount
  have hdlt : d < 14 := (Nat.pow_lt_pow_iff_right (by decide)).1 (hlow.trans_lt hlt)
  have hexponent : exponentOf (ofInt n) = d := by
    rw [exponentOf_ofInt hd hcount, logarithmStart, logarithmReach_eq_zero _ (by omega), if_neg (by omega)]
  refine ⟨10 ^ d, pow_pos (by decide) d, pow_le_pow_right₀ (by decide) (by omega), by exact_mod_cast hlow, ?_, ?_⟩
  · rw [← pow_succ]
    exact_mod_cast hhigh.le
  · rw [logarithmic_ofInt hn (by omega) hexponent, ofDecade, pow_succ]

theorem between_ofInts_of_le {a b : Int} (ha : a.natAbs ≤ 2 ^ 53) (hb : b.natAbs ≤ 2 ^ 53) :
    (ofInts a b).Between a b := between_ofInts (exact_of_le ha) (exact_of_le hb)

theorem halves_half_of_pos {p : Int} (hpos : 0 < p) (hp : p ≤ 10 ^ 13) (hlow : p ≤ n) (hhigh : n ≤ p * 10) :
    ((ofInts p (p * 10)).half (ofInt n)).Halves (ofInts p (p * 10)) n := by
  have hcast : (0 : ℚ) < p := Int.cast_pos.2 hpos
  have hfull := between_ofInts_of_le (a := p) (b := p * 10) (by omega) (by omega)
  rw [half_ofInts (by omega) hpos.ne' (by omega)]
  rw [Int.cast_mul] at hfull
  split
  · next hless =>
    have hpart := between_ofInts_of_le (a := p) (b := p * 5) (by omega) (by omega)
    rw [Int.cast_mul] at hpart
    refine hpart.halves hfull hcast (.inl ⟨rfl, rfl⟩) ?_ ?_
    · exact_mod_cast hlow
    · exact_mod_cast hless.le
  · next hless =>
    have hpart := between_ofInts_of_le (a := p * 5) (b := p * 10) (by omega) (by omega)
    rw [Int.cast_mul, Int.cast_mul] at hpart
    refine hpart.halves hfull hcast (.inr ⟨rfl, rfl⟩) ?_ ?_
    · exact_mod_cast not_lt.1 hless
    · exact_mod_cast hhigh

/-- A negative number is never below five times the lower end, so its bin is extended. -/
theorem half_of_neg {p : Int} (hpos : 0 < p) (hp : p ≤ 10 ^ 13) (hlow : -(p * 10) ≤ n) (hn : n < 0) :
    (ofInts (-(p * 10)) (-p)).half (ofInt n) = ofInts (-(p * 10) * 5) (-p) := by
  rw [half_ofInts (by omega) (by omega) (by omega), if_neg (by omega)]

/-- The half bin of a whole number refines its bin if and only if the number is positive. For a negative number
the bin is extended downwards to five times its lower end. -/
theorem halves_halfLogarithmic_iff (hn : n ≠ 0) (hlt : n.natAbs < 10 ^ 14) :
    ((halfLogarithmic (ofInt n)).Halves (logarithmic (ofInt n)) n ↔ 0 < n) ∧
      (n < 0 → (halfLogarithmic (ofInt n)).Between ((logarithmic (ofInt n)).low.value * 5)
        (logarithmic (ofInt n)).high.value ∧ (halfLogarithmic (ofInt n)).Contains n) := by
  obtain ⟨p, hpos, hp, hlow, hhigh, hbin⟩ := exists_logarithmic hn hlt
  rw [halfLogarithmic, hbin]
  rcases Int.lt_or_gt_of_ne hn with hneg | hnpos
  · rw [if_neg hneg.not_gt, half_of_neg hpos hp (by omega) hneg]
    have hfull := between_ofInts_of_le (a := -(p * 10)) (b := -p) (by omega) (by omega)
    have hpart := between_ofInts_of_le (a := -(p * 10) * 5) (b := -p) (by omega) (by omega)
    refine ⟨iff_of_false (fun h => ?_) hneg.not_gt, fun _ => ⟨?_, hpart.contains_iff.2 ⟨?_, ?_⟩⟩⟩
    · have hle := h.low_le
      rw [hfull.low, hpart.low, Int.cast_le] at hle
      omega
    · rw [hfull.low, hfull.high]
      rwa [Int.cast_mul] at hpart
    · exact_mod_cast (show -(p * 10) * 5 ≤ n by omega)
    · exact_mod_cast (show n ≤ -p by omega)
  · rw [if_pos hnpos]
    refine ⟨iff_of_true (halves_half_of_pos hpos hp (by omega) (by omega)) hnpos, fun hneg => ?_⟩
    exact absurd hneg hnpos.not_gt

/-- The half bin of 42 is in its bin, that of -42 is not. -/
theorem halves_halfLogarithmic_iff_42 :
    (halfLogarithmic (ofInt 42)).Halves (logarithmic (ofInt 42)) (42 : Int) ∧
      ¬ (halfLogarithmic (ofInt (-42))).Halves (logarithmic (ofInt (-42))) (-42 : Int) :=
  ⟨(halves_halfLogarithmic_iff (n := 42) (by decide) (by decide)).1.2 (by decide),
    (halves_halfLogarithmic_iff (n := -42) (by decide) (by decide)).1.not.2 (by decide)⟩

end Bin

end RecordFlow
