import RecordFlow.Binary64.Shortest
import RecordFlow.Proofs.Binary64.Rounding

/-! # Decimals that read back

The shortest decimal of a magnitude lies in the span of its code, so reading the
decimal gives the magnitude again. One of the grids that are tried is fine enough
for every magnitude: its places are smaller than the span.
-/

namespace RecordFlow.Binary64.Magnitude

/-- A decimal lies in the span of a code. -/
def NearestDecimal (code : Nat) (d : Decimal) : Prop :=
  Nearest code (d.digits * one * 10 ^ d.exponent.toNat) (10 ^ (-d.exponent).toNat)

-- the exponents are variables, so that the powers are never written out
theorem one_eq {n : Nat} (hn : n = 1074) : one = 2 ^ n := by
  unfold one
  rw [← hn]
  exact Nat.pow_eq

theorem one_pos : 0 < one := by
  obtain ⟨n, hn⟩ : ∃ n, n = 1074 := ⟨_, rfl⟩
  rw [one_eq hn]
  exact Nat.two_pow_pos n

theorem ten_pow_pos (n : Nat) : 0 < 10 ^ n := Nat.pow_pos (by decide)

theorem readsBack_iff {code digits : Nat} {exponent : Int} :
    readsBack code digits exponent ↔ NearestDecimal code ⟨digits, exponent⟩ := by
  have htwice : 2 * digits * one * 10 ^ exponent.toNat = 2 * (digits * one * 10 ^ exponent.toNat) := by
    ring
  have hlt : unitsOfCode code < unitsOfCode (code + 1) := unitsOfCode_lt_succ code
  simp only [readsBack, NearestDecimal, Nat.pow_eq, htwice]
  constructor
  · intro h
    split at h
    · next heven =>
      simp only [Bool.and_eq_true, decide_eq_true_eq] at h
      exact ⟨h.1, h.2, fun _ => heven, fun _ => heven⟩
    · simp only [Bool.and_eq_true, decide_eq_true_eq] at h
      exact ⟨h.1.le, h.2.le, fun heq => absurd heq h.1.ne, fun heq => absurd heq h.2.ne⟩
  · rintro ⟨hlow, hhigh, heven, heven'⟩
    split
    · simp [hlow, hhigh]
    · next hodd =>
      have h1 := lt_of_le_of_ne hlow fun h => hodd (heven h)
      have h2 := lt_of_le_of_ne hhigh fun h => hodd (heven' h)
      simp [h1, h2]

theorem nearest_of_lt {code num den : Nat}
    (hlow : (unitsOfCode code + unitsOfCode (code - 1)) * den < 2 * num)
    (hhigh : 2 * num < (unitsOfCode code + unitsOfCode (code + 1)) * den) : Nearest code num den :=
  ⟨hlow.le, hhigh.le, fun h => absurd h hlow.ne, fun h => absurd h hhigh.ne⟩

theorem nearest_zero {code den : Nat} (hden : 0 < den) (h : Nearest code 0 den) : code = 0 := by
  by_contra hne
  have hpos := Nat.mul_pos (Nat.add_pos_left (unitsOfCode_pos hne) (unitsOfCode (code - 1))) hden
  have hlow := h.low
  omega

theorem unitsOfCode_infinityCode {n : Nat} (hn : n = 2046) :
    unitsOfCode infinityCode = 2 ^ (52 + n) := by
  have h := unitsOfCode_mantissa (s := n) (m := fractionSize) (.inr le_rfl) (by decide)
  rw [hn, show 2046 * fractionSize + fractionSize = infinityCode by decide, ← hn] at h
  rw [h, Nat.pow_add, show fractionSize = 2 ^ 52 by decide]

theorem two_pow_le_ten_pow (n : Nat) : 2 ^ (3 * n) ≤ 10 ^ n := by
  rw [Nat.pow_mul]
  exact Nat.pow_le_pow_left (by decide) n

theorem infinity_lt {e : Nat} (he : 400 < e) : unitsOfCode infinityCode < one * 10 ^ e := by
  obtain ⟨n, hn⟩ : ∃ n, n = 1074 := ⟨_, rfl⟩
  obtain ⟨m, hm⟩ : ∃ m, m = 2046 := ⟨_, rfl⟩
  calc unitsOfCode infinityCode = 2 ^ (52 + m) := unitsOfCode_infinityCode hm
    _ < 2 ^ (n + 3 * e) := Nat.pow_lt_pow_right (by decide) (by omega)
    _ = one * 2 ^ (3 * e) := by rw [one_eq hn, Nat.pow_add]
    _ ≤ one * 10 ^ e := Nat.mul_le_mul_left _ (two_pow_le_ten_pow e)

theorem exponent_le_of_nearest {code : Nat} {d : Decimal} (h : NearestDecimal code d)
    (hcode : code < infinityCode) (hdigits : d.digits ≠ 0) : d.exponent ≤ 400 := by
  by_contra hlt
  have hneg : (-d.exponent).toNat = 0 := by omega
  have hhigh := h.high
  rw [hneg, Nat.pow_zero, Nat.mul_one] at hhigh
  have hinfinity := infinity_lt (e := d.exponent.toNat) (by omega)
  have hvalue : 1 * (one * 10 ^ d.exponent.toNat) ≤ d.digits * (one * 10 ^ d.exponent.toNat) :=
    Nat.mul_le_mul_right _ (Nat.pos_of_ne_zero hdigits)
  rw [← Nat.mul_assoc d.digits] at hvalue
  have hunits := unitsOfCode_mono (a := code + 1) (b := infinityCode) hcode
  have hunits' := unitsOfCode_lt_succ code
  omega

theorem code_eq_zero_of_nearest {code : Nat} {d : Decimal} (h : NearestDecimal code d)
    (hneg : d.exponent < 0) (hsmall : d.digits.log2 + 1101 < 3 * d.exponent.natAbs) : code = 0 := by
  by_contra hne
  have hexp : d.exponent.toNat = 0 := by omega
  have hlow := h.low
  rw [hexp, Nat.pow_zero, Nat.mul_one] at hlow
  have hunit : 1 * 10 ^ (-d.exponent).toNat ≤ 2 * (d.digits * one) :=
    (Nat.mul_le_mul_right _ (by have := unitsOfCode_pos hne; omega)).trans hlow
  obtain ⟨n, hn⟩ : ∃ n, n = 1074 := ⟨_, rfl⟩
  have hvalue : d.digits * one < 2 ^ (d.digits.log2 + 1 + n) := by
    rw [one_eq hn, Nat.pow_add]
    exact Nat.mul_lt_mul_of_pos_right Nat.lt_log2_self (Nat.two_pow_pos n)
  have hten : 2 ^ (d.digits.log2 + 1 + n + 1) ≤ 10 ^ (-d.exponent).toNat :=
    calc 2 ^ (d.digits.log2 + 1 + n + 1) ≤ 2 ^ (3 * (-d.exponent).toNat) :=
          Nat.pow_le_pow_right (by decide) (by omega)
      _ ≤ 10 ^ (-d.exponent).toNat := two_pow_le_ten_pow _
  rw [Nat.pow_succ] at hten
  omega

theorem code_ofDecimal {code : Nat} {d : Decimal} (h : NearestDecimal code d)
    (hcode : code < infinityCode) : (ofDecimal d).code = code := by
  simp only [ofDecimal]
  split
  · next hzero =>
    have hnearest : Nearest code 0 (10 ^ (-d.exponent).toNat) := by
      have := h
      rwa [NearestDecimal, hzero, Nat.zero_mul, Nat.zero_mul] at this
    exact (nearest_zero (ten_pow_pos _) hnearest).symm
  next hdigits =>
  have hle := exponent_le_of_nearest h hcode hdigits
  rw [if_neg (by omega)]
  split
  · next hexp =>
    refine Nearest.code_round_eq (by decide) hcode.le ?_
    have hneg : (-d.exponent).toNat = 0 := by omega
    have := h
    rw [NearestDecimal, hneg, Nat.pow_zero] at this
    rwa [Nat.pow_eq, Nat.mul_right_comm]
  next hexp =>
  split
  · next hsmall => exact (code_eq_zero_of_nearest h (by omega) hsmall).symm
  · refine Nearest.code_round_eq (ten_pow_pos _) hcode.le ?_
    have hpos : d.exponent.toNat = 0 := by omega
    have habs : d.exponent.natAbs = (-d.exponent).toNat := by omega
    have := h
    rw [NearestDecimal, hpos, Nat.pow_zero, Nat.mul_one] at this
    rwa [Nat.pow_eq, habs]

theorem ofDecimal_eq_of_nearest {m : Magnitude} {d : Decimal} (h : NearestDecimal m.code d)
    (hfinite : m.isFinite) : ofDecimal d = m := by
  have hcode := code_ofDecimal h (of_decide_eq_true hfinite)
  cases m
  cases hd : ofDecimal d
  simpa [hd] using hcode

/-- A zero at the end of the digits may move into the exponent. -/
theorem nearestDecimal_ten {code digits : Nat} {exponent : Int} :
    NearestDecimal code ⟨digits * 10, exponent⟩ ↔ NearestDecimal code ⟨digits, exponent + 1⟩ := by
  simp only [NearestDecimal]
  rcases lt_or_ge exponent 0 with hneg | hpos
  · obtain ⟨k, hk⟩ : ∃ k, (-exponent).toNat = k + 1 := ⟨(-exponent).toNat - 1, by omega⟩
    rw [hk, show exponent.toNat = 0 by omega, show (exponent + 1).toNat = 0 by omega,
      show (-(exponent + 1)).toNat = k by omega, Nat.pow_succ, Nat.mul_right_comm digits,
      Nat.mul_right_comm _ 10]
    exact nearest_mul_right (by decide)
  · rw [show (exponent + 1).toNat = exponent.toNat + 1 by omega,
      show (-exponent).toNat = 0 by omega, show (-(exponent + 1)).toNat = 0 by omega]
    rw [show digits * 10 * one * 10 ^ exponent.toNat = digits * one * 10 ^ (exponent.toNat + 1) by ring]

theorem nearestDecimal_ten_pow {code digits count : Nat} {exponent : Int} :
    NearestDecimal code ⟨digits * 10 ^ count, exponent⟩ ↔
      NearestDecimal code ⟨digits, exponent + count⟩ := by
  induction count generalizing exponent with
  | zero => simp
  | succ count ih =>
    rw [Nat.pow_succ, ← Nat.mul_assoc, nearestDecimal_ten, ih]
    rw [show exponent + 1 + (count : Int) = exponent + ((count + 1 : Nat) : Int) by omega]

theorem nearestDecimal_stripZeros {code digits : Nat} {exponent : Int} :
    NearestDecimal code (.stripZeros digits exponent) ↔ NearestDecimal code ⟨digits, exponent⟩ := by
  fun_induction Decimal.stripZeros digits exponent with
  | case1 digits exponent h ih =>
    rw [ih, ← nearestDecimal_ten, Nat.div_mul_cancel (Nat.dvd_of_mod_eq_zero h.2)]
  | case2 => rfl

theorem readsBack_of_onGrid {tie : Tie} {code digits : Nat} {exponent : Int}
    (h : onGrid tie code exponent = some digits) : readsBack code digits exponent := by
  simp only [onGrid] at h
  split at h
  · cases h
  · next hbelow _ => cases h; exact hbelow
  · next habove => cases h; exact habove
  · next hbelow habove =>
    split at h
    · cases h; exact hbelow
    split at h
    · cases h; exact habove
    split at h
    · cases h; exact habove
    · split at h
      · cases h; exact hbelow
      · cases h; exact habove

theorem lt_ten_pow_digitCount (n : Nat) : n < 10 ^ digitCount n := by
  fun_induction digitCount n with
  | case1 => decide
  | case2 n _ ih => rw [Nat.pow_succ]; omega

theorem ten_pow_digitCount_le {n : Nat} (hn : n ≠ 0) : 10 ^ (digitCount n - 1) ≤ n := by
  fun_induction digitCount n with
  | case1 => exact absurd rfl hn
  | case2 n _ ih =>
    rw [Nat.add_sub_cancel]
    by_cases hsmall : n / 10 = 0
    · rw [hsmall, digitCount, if_pos rfl]; omega
    · have hle := ih hsmall
      obtain ⟨k, hk⟩ : ∃ k, digitCount (n / 10) = k + 1 :=
        Nat.exists_eq_succ_of_ne_zero (by rw [digitCount, if_neg hsmall]; omega)
      rw [hk, Nat.add_sub_cancel] at hle
      rw [hk, Nat.pow_succ]
      omega

theorem ten_pow_decade_le {num den : Nat} (hnum : 0 < num) (hden : 0 < den) :
    den * 10 ^ (decade num den).toNat ≤ num * 10 ^ (-decade num den).toNat := by
  simp only [decade]
  split
  · next hle =>
    have hq : num / den ≠ 0 := (Nat.div_pos hle hden).ne'
    rw [show ((digitCount (num / den) : Int) - 1).toNat = digitCount (num / den) - 1 by omega,
      show (-((digitCount (num / den) : Int) - 1)).toNat = 0 by
        rw [digitCount, if_neg hq]; omega, Nat.pow_zero, Nat.mul_one, Nat.mul_comm]
    exact (Nat.le_div_iff_mul_le hden).1 (ten_pow_digitCount_le hq)
  · rw [show (-(digitCount ((den - 1) / num) : Int)).toNat = 0 by omega,
      show (- -(digitCount ((den - 1) / num) : Int)).toNat = digitCount ((den - 1) / num) by omega,
      Nat.pow_zero, Nat.mul_one, Nat.mul_comm]
    have := (Nat.div_lt_iff_lt_mul hnum).1 (lt_ten_pow_digitCount ((den - 1) / num))
    omega

/-- The span of a code is wider than the seventeenth place of its value. -/
theorem units_lt_span {code : Nat} (hcode : code ≠ 0) :
    2 * unitsOfCode code < 10 ^ 16 * (unitsOfCode (code + 1) - unitsOfCode (code - 1)) := by
  obtain ⟨s, m, rfl, hs, hm⟩ := exists_mantissa code
  have hunits : unitsOfCode (s * fractionSize + m) = m * 2 ^ s := unitsOfCode_mantissa hs hm
  have hsucc : unitsOfCode (s * fractionSize + m + 1) = (m + 1) * 2 ^ s := by
    rw [Nat.add_assoc, unitsOfCode_mantissa_le (by omega) (by omega)]
  have hpred := unitsOfCode_pred_lt hcode
  have hpow : 0 < 2 ^ s := Nat.two_pow_pos s
  by_cases hleast : m ≤ fractionSize
  · have hspan : 2 ^ s ≤ unitsOfCode (s * fractionSize + m + 1) -
        unitsOfCode (s * fractionSize + m - 1) := by
      rw [hsucc, Nat.add_mul, Nat.one_mul, ← hunits]; omega
    calc 2 * unitsOfCode (s * fractionSize + m) = 2 * m * 2 ^ s := by rw [hunits, Nat.mul_assoc]
      _ < 10 ^ 16 * 2 ^ s := Nat.mul_lt_mul_of_pos_right (by simp only [fractionSize] at *; omega) hpow
      _ ≤ _ := Nat.mul_le_mul_left _ hspan
  · have hspan : unitsOfCode (s * fractionSize + m + 1) - unitsOfCode (s * fractionSize + m - 1) =
        2 * 2 ^ s := by
      have hpred : s * fractionSize + m - 1 = s * fractionSize + (m - 1) := by omega
      rw [hsucc, hpred, unitsOfCode_mantissa_le (by omega) (by omega), ← Nat.sub_mul]
      congr 1; omega
    calc 2 * unitsOfCode (s * fractionSize + m) = 2 * m * 2 ^ s := by rw [hunits, Nat.mul_assoc]
      _ < 10 ^ 16 * 2 * 2 ^ s :=
        Nat.mul_lt_mul_of_pos_right (by simp only [fractionSize] at *; omega) hpow
      _ = _ := by rw [hspan, Nat.mul_assoc]

/-- On a grid whose places are smaller than the span, one of the two neighbours reads back. -/
theorem readsBack_neighbour {code : Nat} {exponent : Int} (hcode : code ≠ 0)
    (hfine : 2 * (one * 10 ^ exponent.toNat) <
      (unitsOfCode (code + 1) - unitsOfCode (code - 1)) * 10 ^ (-exponent).toNat) :
    let below := unitsOfCode code * 10 ^ (-exponent).toNat / (one * 10 ^ exponent.toNat)
    readsBack code below exponent ∨ readsBack code (below + 1) exponent := by
  intro below
  simp only [readsBack_iff, NearestDecimal, Nat.mul_assoc]
  have hpred := unitsOfCode_pred_lt hcode
  have hsucc := unitsOfCode_lt_succ code
  have hplace : 0 < one * 10 ^ exponent.toNat := Nat.mul_pos one_pos (ten_pow_pos _)
  have hscale : 0 < 10 ^ (-exponent).toNat := ten_pow_pos _
  have hbelow : below * (one * 10 ^ exponent.toNat) ≤ unitsOfCode code * 10 ^ (-exponent).toNat :=
    Nat.div_mul_le_self _ _
  have habove : unitsOfCode code * 10 ^ (-exponent).toNat < (below + 1) * (one * 10 ^ exponent.toNat) :=
    (Nat.div_lt_iff_lt_mul hplace).1 (Nat.lt_succ_self _)
  generalize one * 10 ^ exponent.toNat = place at *
  generalize 10 ^ (-exponent).toNat = scale at *
  have hlow : (unitsOfCode code + unitsOfCode (code - 1)) * scale < 2 * (unitsOfCode code * scale) := by
    rw [← Nat.mul_assoc]
    exact Nat.mul_lt_mul_of_pos_right (by omega) hscale
  have hhigh : 2 * (unitsOfCode code * scale) < (unitsOfCode code + unitsOfCode (code + 1)) * scale := by
    rw [← Nat.mul_assoc]
    exact Nat.mul_lt_mul_of_pos_right (by omega) hscale
  by_cases h : (unitsOfCode code + unitsOfCode (code - 1)) * scale < 2 * (below * place)
  · exact .inl (nearest_of_lt h (by omega))
  · -- the lower neighbour is not above the lower midpoint, so the upper one is below the upper one
    refine .inr (nearest_of_lt (by omega) ?_)
    have hspan : (unitsOfCode code + unitsOfCode (code + 1)) * scale =
        (unitsOfCode code + unitsOfCode (code - 1)) * scale +
          (unitsOfCode (code + 1) - unitsOfCode (code - 1)) * scale := by
      rw [← Nat.add_mul]
      congr 1; omega
    rw [hspan, Nat.add_mul, Nat.one_mul]
    omega

theorem onGrid_isSome {tie : Tie} {code : Nat} {exponent : Int} (hcode : code ≠ 0)
    (hfine : 2 * (one * 10 ^ exponent.toNat) <
      (unitsOfCode (code + 1) - unitsOfCode (code - 1)) * 10 ^ (-exponent).toNat) :
    (onGrid tie code exponent).isSome := by
  have h := readsBack_neighbour hcode hfine
  simp only [onGrid, Nat.pow_eq]
  split
  · next hbelow habove => simp [hbelow, habove] at h
  · rfl
  · rfl
  · repeat' split
    all_goals rfl

theorem ten_pow_sixteen {unit value : Nat} {k e : Int} (he : e = k - 16)
    (h : unit * 10 ^ k.toNat ≤ value * 10 ^ (-k).toNat) :
    unit * 10 ^ e.toNat * 10 ^ 16 ≤ value * 10 ^ (-e).toNat := by
  -- both sides are the sides of `h`, up to a common power of ten
  refine Nat.le_of_mul_le_mul_right ?_ (ten_pow_pos (-k).toNat)
  calc unit * 10 ^ e.toNat * 10 ^ 16 * 10 ^ (-k).toNat
      = unit * 10 ^ (e.toNat + 16 + (-k).toNat) := by ring
    _ = unit * 10 ^ (k.toNat + (-e).toNat) := by
        rw [show e.toNat + 16 + (-k).toNat = k.toNat + (-e).toNat by omega]
    _ = unit * 10 ^ k.toNat * 10 ^ (-e).toNat := by ring
    _ ≤ value * 10 ^ (-k).toNat * 10 ^ (-e).toNat := Nat.mul_le_mul_right _ h
    _ = value * 10 ^ (-e).toNat * 10 ^ (-k).toNat := by ring

theorem lt_span_of_decade {code : Nat} {exponent : Int} (hcode : code ≠ 0)
    (hexponent : exponent = decade (unitsOfCode code) one - 16) :
    2 * (one * 10 ^ exponent.toNat) <
      (unitsOfCode (code + 1) - unitsOfCode (code - 1)) * 10 ^ (-exponent).toNat := by
  have hvalue := ten_pow_sixteen hexponent (ten_pow_decade_le (unitsOfCode_pos hcode) one_pos)
  have hspan := units_lt_span hcode
  generalize one = unit at hvalue ⊢
  refine Nat.lt_of_mul_lt_mul_right (a := 10 ^ 16) ?_
  calc 2 * (unit * 10 ^ exponent.toNat) * 10 ^ 16
      = 2 * (unit * 10 ^ exponent.toNat * 10 ^ 16) := by ring
    _ ≤ 2 * (unitsOfCode code * 10 ^ (-exponent).toNat) := Nat.mul_le_mul_left 2 hvalue
    _ = 2 * unitsOfCode code * 10 ^ (-exponent).toNat := by ring
    _ < 10 ^ 16 * (unitsOfCode (code + 1) - unitsOfCode (code - 1)) * 10 ^ (-exponent).toNat :=
        Nat.mul_lt_mul_of_pos_right hspan (ten_pow_pos _)
    _ = _ := by ring

theorem nearestDecimal_refine {tie : Tie} {code count : Nat} {exponent : Int}
    (h : (onGrid tie code (exponent - count)).isSome) :
    NearestDecimal code (refine tie code exponent (count + 1)) := by
  induction count generalizing exponent with
  | zero =>
    obtain ⟨digits, hdigits⟩ := Option.isSome_iff_exists.1 h
    rw [Int.ofNat_zero, Int.sub_zero] at hdigits
    simp only [refine, hdigits]
    exact nearestDecimal_stripZeros.2 (readsBack_iff.1 (readsBack_of_onGrid hdigits))
  | succ count ih =>
    rw [refine]
    split
    · next digits hdigits =>
      exact nearestDecimal_stripZeros.2 (readsBack_iff.1 (readsBack_of_onGrid hdigits))
    · refine ih ?_
      rwa [show exponent - 1 - (count : Int) = exponent - ((count + 1 : Nat) : Int) by omega]

theorem code_eq_zero_of_units {m : Magnitude} (h : m.units = 0) : m.code = 0 := by
  by_contra hne
  exact (unitsOfCode_pos hne).ne' h

/-- The shortest decimal of a magnitude lies in the span of its code. -/
theorem nearestDecimal_shortest (tie : Tie) (m : Magnitude) :
    NearestDecimal m.code (m.shortest tie) := by
  rw [shortest]
  split
  · next hzero =>
    rw [code_eq_zero_of_units hzero]
    refine ⟨?_, ?_, fun _ => rfl, fun _ => rfl⟩ <;> simp
  · next hunits =>
    have hcode : m.code ≠ 0 := by
      intro h
      rw [units, h, unitsOfCode_zero] at hunits
      exact hunits rfl
    have hgrid : (onGrid tie m.code (decade m.units one - (16 : Nat))).isSome :=
      onGrid_isSome hcode (lt_span_of_decade hcode rfl)
    exact nearestDecimal_refine hgrid

end RecordFlow.Binary64.Magnitude
