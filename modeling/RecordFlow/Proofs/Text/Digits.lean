import Mathlib.Tactic.Ring
import RecordFlow.Text.Digits

/-! # Digits of numbers

The digits of a number denote the number. Zeros in front of digits change nothing,
and a zero behind them multiplies the number by ten.
-/

namespace RecordFlow

section Positional

variable {base : Nat} {value? : Char → Option Nat}

theorem foldl_toDigits (hbase : 1 < base) (hvalue : ∀ d < base, value? d.digitChar = some d) (n : Nat) :
    (Nat.toDigits base n).foldl (fun n c => base * n + (value? c).getD 0) 0 = n := by
  induction n using Nat.strong_induction_on with
  | _ n ih =>
    rw [Nat.toDigits_eq_if hbase]
    split
    · next hlt => simp [hvalue n hlt]
    · next hge =>
      have hsmaller : n / base < n := Nat.div_lt_self (by omega) hbase
      rw [List.foldl_append, ih _ hsmaller, List.foldl_cons, List.foldl_nil,
        hvalue _ (Nat.mod_lt _ (by omega)), Option.getD_some, Nat.div_add_mod]

theorem isSome_of_mem_toDigits (hbase : 1 < base) (hvalue : ∀ d < base, value? d.digitChar = some d)
    (n : Nat) : ∀ c ∈ Nat.toDigits base n, (value? c).isSome := by
  induction n using Nat.strong_induction_on with
  | _ n ih =>
    rw [Nat.toDigits_eq_if hbase]
    split
    · next hlt => simp [hvalue n hlt]
    · next hge =>
      have hsmaller : n / base < n := Nat.div_lt_self (by omega) hbase
      intro c hc
      rcases List.mem_append.1 hc with hc | hc
      · exact ih _ hsmaller c hc
      · rw [List.mem_singleton.1 hc, hvalue _ (Nat.mod_lt _ (by omega)), Option.isSome_some]

end Positional

theorem decimalValue?_digitChar : ∀ d < 10, decimalValue? d.digitChar = some d := by decide

theorem hexValue?_digitChar : ∀ d < 16, hexValue? d.digitChar = some d := by decide

@[simp] theorem ofDecimalDigits_decimalDigits (n : Nat) : ofDecimalDigits (decimalDigits n) = n :=
  foldl_toDigits (by decide) decimalValue?_digitChar n

@[simp] theorem ofHexDigits_hexDigits (n : Nat) : ofHexDigits (hexDigits n) = n :=
  foldl_toDigits (by decide) hexValue?_digitChar n

theorem isDecimalDigit_of_mem_decimalDigits {n : Nat} : ∀ c ∈ decimalDigits n, isDecimalDigit c :=
  isSome_of_mem_toDigits (by decide) decimalValue?_digitChar n

theorem isDecimalDigit_of_mem_zeros {count : Nat} : ∀ c ∈ List.replicate count '0', isDecimalDigit c := by
  intro c hc
  rw [List.eq_of_mem_replicate hc]
  decide

theorem isHexDigit_of_mem_hexDigits {n : Nat} : ∀ c ∈ hexDigits n, isHexDigit c :=
  isSome_of_mem_toDigits (by decide) hexValue?_digitChar n

@[simp] theorem ofDecimalDigits_zeros_append (count : Nat) (digits : List Char) :
    ofDecimalDigits (List.replicate count '0' ++ digits) = ofDecimalDigits digits := by
  induction count with
  | zero => rfl
  | succ count ih => exact ih

theorem ofDecimalDigits_append_zeros (digits : List Char) (count : Nat) :
    ofDecimalDigits (digits ++ List.replicate count '0') = ofDecimalDigits digits * 10 ^ count := by
  induction count with
  | zero => simp
  | succ count ih =>
    have hstep : ofDecimalDigits (digits ++ List.replicate count '0' ++ ['0']) =
        10 * ofDecimalDigits (digits ++ List.replicate count '0') := by
      simp only [ofDecimalDigits, List.foldl_append, List.foldl_cons, List.foldl_nil]
      rfl
    rw [List.replicate_succ', ← List.append_assoc, hstep, ih]
    ring

theorem hexValue?_getD_lt (c : Char) : (hexValue? c).getD 0 < 16 := by
  have hsub (first last : Char) (count : Nat) (hcount : last.toNat ≤ first.toNat + count)
      (hc : first ≤ c ∧ c ≤ last) : c.toNat - first.toNat ≤ count := by
    have hlast : c.toNat ≤ last.toNat := hc.2
    omega
  rw [hexValue?]
  split
  · next hc => have := hsub '0' '9' 9 (by decide) hc; simp only [Option.getD_some]; omega
  split
  · next hc => have := hsub 'a' 'f' 5 (by decide) hc; simp only [Option.getD_some]; omega
  split
  · next hc => have := hsub 'A' 'F' 5 (by decide) hc; simp only [Option.getD_some]; omega
  · decide

theorem ofHexDigits_lt (digits : List Char) : ofHexDigits digits < 16 ^ digits.length := by
  suffices h : ∀ value,
      digits.foldl (fun n c => 16 * n + (hexValue? c).getD 0) value < (value + 1) * 16 ^ digits.length by
    have hzero := h 0
    rwa [Nat.zero_add, Nat.one_mul] at hzero
  induction digits with
  | nil => simp
  | cons c digits ih =>
    intro value
    have hc := hexValue?_getD_lt c
    refine (ih _).trans_le ?_
    rw [List.length_cons, Nat.pow_succ', ← Nat.mul_assoc]
    exact Nat.mul_le_mul_right _ (by dsimp only; omega)

end RecordFlow
