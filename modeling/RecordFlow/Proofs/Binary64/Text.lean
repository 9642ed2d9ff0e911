import Mathlib.Data.List.Basic
import RecordFlow.Binary64.Text
import RecordFlow.Proofs.Binary64.Decimal
import RecordFlow.Proofs.Text.Digits

/-! # The parts of written decimals

A decimal in the plain style is a run of digits, or two of them with a point between.
Neither style begins with a zero that could be left out.
-/

namespace RecordFlow

/-- Digits that begin with a zero only if there is nothing else. -/
def NoLeadingZero (digits : List Char) : Prop := digits.head? = some '0' → digits = ['0']

theorem head?_decimalDigits_ne_zero {n : Nat} (hn : n ≠ 0) : (decimalDigits n).head? ≠ some '0' := by
  induction n using Nat.strong_induction_on with
  | _ n ih =>
    rw [decimalDigits, Nat.toDigits_eq_if (by decide)]
    split
    · next hlt =>
      have hdigit : ∀ d < 10, d ≠ 0 → [d.digitChar].head? ≠ some '0' := by decide
      exact hdigit n hlt hn
    · next hge =>
      rw [List.head?_append_of_ne_nil _ Nat.toDigits_ne_nil]
      exact ih (n / 10) (by omega) (by omega)

theorem decimalDigits_ne_nil (n : Nat) : decimalDigits n ≠ [] := Nat.toDigits_ne_nil

theorem noLeadingZero_decimalDigits (n : Nat) : NoLeadingZero (decimalDigits n) := by
  intro h
  by_cases hn : n = 0
  · rw [hn]
    rfl
  · exact absurd h (head?_decimalDigits_ne_zero hn)

theorem NoLeadingZero.of_isPrefix {digits whole : List Char} (h : NoLeadingZero digits) (hbegins : whole <+: digits) :
    NoLeadingZero whole := by
  intro hhead
  cases whole with
  | nil => cases hhead
  | cons c whole =>
    obtain ⟨rest, hrest⟩ := hbegins
    have hdigits : digits = ['0'] := h (by rw [← hrest]; exact hhead)
    rw [hdigits, List.cons_append, List.cons.injEq, List.append_eq_nil_iff] at hrest
    rw [hrest.1, hrest.2.1]

namespace Decimal

theorem toList_plain_of_nonneg {d : Decimal} (h : 0 ≤ d.exponent) (tail : String) :
    (d.plain tail).toList = decimalDigits d.digits ++ List.replicate d.exponent.toNat '0' ++ tail.toList := by
  simp [plain, h]

theorem toList_scientific {d : Decimal} {c : Char} {more : List Char} (h : decimalDigits d.digits = c :: more)
    (plus : String) : (d.scientific plus).toList =
      c :: (if more = [] then [] else '.' :: more) ++ 'e' ::
        ((if d.exponent + more.length < 0 then "-" else plus).toList ++
          decimalDigits (d.exponent + more.length).natAbs) := by
  have hexponent : d.exponent + (c :: more).length - 1 = d.exponent + more.length := by
    rw [List.length_cons]
    omega
  simp only [scientific, h, hexponent]
  cases more <;> simp

/-- The two runs of digits around the point of a decimal with places after it. -/
structure Split (d : Decimal) (whole fraction : List Char) : Prop where
  whole_ne_nil : whole ≠ []
  length_fraction : fraction.length = d.exponent.natAbs
  digits : ∀ c ∈ whole ++ fraction, isDecimalDigit c
  value : ofDecimalDigits (whole ++ fraction) = d.digits
  noLeadingZero : NoLeadingZero whole

theorem exists_split {d : Decimal} (h : d.exponent < 0) (tail : String) :
    ∃ whole fraction, (d.plain tail).toList = whole ++ '.' :: fraction ∧ d.Split whole fraction := by
  let padding := List.replicate (d.exponent.natAbs + 1 - (decimalDigits d.digits).length) '0'
  let padded := padding ++ decimalDigits d.digits
  let places := padded.length - d.exponent.natAbs
  have hlength : d.exponent.natAbs < padded.length := by
    simp only [padded, padding, List.length_append, List.length_replicate]
    omega
  refine ⟨padded.take places, padded.drop places, ?_, ?_, ?_, ?_, ?_, ?_⟩
  · simp [plain, Int.not_le.2 h, padded, padding, places]
  · rw [← List.length_pos_iff, List.length_take]
    omega
  · rw [List.length_drop]
    omega
  · intro c hc
    rw [List.take_append_drop] at hc
    exact (List.mem_append.1 hc).elim (isDecimalDigit_of_mem_zeros c) (isDecimalDigit_of_mem_decimalDigits c)
  · rw [List.take_append_drop, ofDecimalDigits_zeros_append, ofDecimalDigits_decimalDigits]
  · by_cases hlong : d.exponent.natAbs < (decimalDigits d.digits).length
    · have hpadded : padded = decimalDigits d.digits := by
        simp [padded, padding, Nat.sub_eq_zero_of_le hlong]
      rw [hpadded]
      exact (noLeadingZero_decimalDigits _).of_isPrefix (List.take_prefix _ _)
    · -- the zeros leave a single place before the point
      have hplaces : places = 1 := by
        simp only [places, padded, padding, List.length_append, List.length_replicate]
        omega
      obtain ⟨count, hcount⟩ : ∃ count, d.exponent.natAbs + 1 - (decimalDigits d.digits).length = count + 1 :=
        ⟨d.exponent.natAbs - (decimalDigits d.digits).length, by omega⟩
      intro _
      simp [padded, padding, hplaces, hcount, List.replicate_succ]

end Decimal

theorem Binary64.Magnitude.shortest_of_digits_eq_zero {tie : Tie} {m : Magnitude} (h : (m.shortest tie).digits = 0) :
    m.shortest tie = ⟨0, 0⟩ := by
  have hnearest := m.nearestDecimal_shortest tie
  rw [NearestDecimal, h, Nat.zero_mul, Nat.zero_mul] at hnearest
  have hcode : m.code = 0 := nearest_zero (ten_pow_pos _) hnearest
  rw [shortest, if_pos]
  rw [units, hcode, unitsOfCode_zero]

end RecordFlow
