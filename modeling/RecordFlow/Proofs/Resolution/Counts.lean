import RecordFlow.Proofs.Binary64.Value
import RecordFlow.Proofs.Resolution
import RecordFlow.Regex.Engine

/-! # Parameters read as counts

A count is read from a number whose value is a whole number that fits in a word. The bound is
compared as a floating point number, and the largest word is rounded up there, to one that
does not fit. This one number is read as the largest word.
-/

namespace RecordFlow

variable [Engine]

namespace Literal

/-- Whether a literal is a finite number with a certain whole number as its value. -/
def IsWhole (v : Literal) (n : Nat) : Prop := ∃ x, v = .number x ∧ x.isFinite ∧ x.value = n

variable {v : Literal} {m n : Nat}

theorem isWhole_iff : v.IsWhole n ↔ v.asNumber?.bind Binary64.toInt? = some (n : Int) := by
  simp only [IsWhole, Option.bind_eq_some_iff, asNumber?_eq_some_iff, Binary64.toInt?_eq_some_iff, Int.cast_natCast]

theorem IsWhole.unique (h : v.IsWhole m) (h' : v.IsWhole n) : m = n := by
  rw [isWhole_iff] at h h'
  exact Int.ofNat.inj (Option.some.inj (h.symm.trans h'))

end Literal

namespace Resolved

variable {r : Resolved} {key : String} {v : Literal} {n : Nat}

/-- Whether a value is read as a count if and only if it is a whole number that fits in a word, the count is that
number, and all other values are refused. -/
structure CountsExactly (r : Resolved) (key : String) (v : Literal) : Prop where
  ok_iff : ∀ n, r.count key = .ok n ↔ v.IsWhole n ∧ n ≤ 0xffffffffffffffff
  error_iff : ∀ e, r.count key = .error e ↔
    e = .invalidParameter r.nodeType key .count v ∧ ∀ n, v.IsWhole n → 0xffffffffffffffff < n

theorem countOf?_of_isWhole (h : v.IsWhole n) :
    countOf? v = if n ≤ 0x10000000000000000 then some (min n 0xffffffffffffffff) else none := by
  rw [countOf?, Literal.isWhole_iff.1 h]
  refine if_congr ?_ rfl rfl
  omega

theorem countOf?_of_not_isWhole (h : ∀ n, ¬ v.IsWhole n) : countOf? v = none := by
  unfold countOf?
  split
  · next n hn =>
    refine if_neg fun hle => h n.toNat (Literal.isWhole_iff.2 ?_)
    rw [hn, Int.toNat_of_nonneg hle.1]
  · rfl

theorem countOf?_eq_some_iff {m : Nat} :
    countOf? v = some m ↔ ∃ n, v.IsWhole n ∧ n ≤ 0x10000000000000000 ∧ m = min n 0xffffffffffffffff := by
  by_cases hv : ∃ n, v.IsWhole n
  · obtain ⟨n, hn⟩ := hv
    rw [countOf?_of_isWhole hn, Option.ite_none_right_eq_some, Option.some.injEq]
    constructor
    · rintro ⟨hle, rfl⟩
      exact ⟨n, hn, hle, rfl⟩
    · rintro ⟨k, hk, hle, rfl⟩
      obtain rfl := hk.unique hn
      exact ⟨hle, rfl⟩
  · rw [countOf?_of_not_isWhole (not_exists.1 hv)]
    exact iff_of_false (Option.some_ne_none m).symm fun ⟨n, hn, _⟩ => hv ⟨n, hn⟩

theorem count_eq_ok_iff (h : r.get? key = some v) : r.count key = .ok n ↔ countOf? v = some n := by
  rw [count, read_eq_ok_iff]
  constructor
  · rintro ⟨v', hv', hcount⟩
    obtain rfl := Option.some.inj (h.symm.trans hv')
    exact hcount
  · exact fun hcount => ⟨v, h, hcount⟩

theorem CountsExactly.of_ne (h : r.get? key = some v) (hv : ¬ v.IsWhole 0x10000000000000000) :
    r.CountsExactly key v := by
  have hcount (n : Nat) : countOf? v = some n ↔ v.IsWhole n ∧ n ≤ 0xffffffffffffffff := by
    rw [countOf?_eq_some_iff]
    constructor
    · rintro ⟨k, hk, hle, rfl⟩
      have hne : k ≠ 0x10000000000000000 := fun heq => hv (heq ▸ hk)
      rw [Nat.min_eq_left (by omega)]
      exact ⟨hk, by omega⟩
    · rintro ⟨hn, hle⟩
      exact ⟨n, hn, by omega, (Nat.min_eq_left hle).symm⟩
  refine ⟨fun n => (count_eq_ok_iff h).trans (hcount n), fun e => ?_⟩
  simp only [count, read_eq_error_iff h, Option.eq_none_iff_forall_ne_some, ne_eq, hcount, not_and, not_le]

/-- A value is read as a count exactly, unless it is the least whole number that does not fit in a word. That one
is read as the largest word. -/
theorem countsExactly_iff (h : r.get? key = some v) :
    (r.CountsExactly key v ↔ ¬ v.IsWhole 0x10000000000000000) ∧
      (v.IsWhole 0x10000000000000000 → r.count key = .ok 0xffffffffffffffff) := by
  have hword (hv : v.IsWhole 0x10000000000000000) : r.count key = .ok 0xffffffffffffffff :=
    (count_eq_ok_iff h).2 (countOf?_eq_some_iff.2 ⟨_, hv, Nat.le_refl _, by decide⟩)
  refine ⟨⟨fun hexact hv => ?_, .of_ne h⟩, hword⟩
  have hlargest := ((hexact.ok_iff _).1 (hword hv)).1
  exact absurd (hlargest.unique hv) (by decide)

end Resolved

end RecordFlow

namespace RecordFlow.Resolved

open scoped Regex

/-- The least whole number that does not fit in a word, as it is written in a manifest, is read as the largest
word. A negative zero is read as zero. -/
theorem countsExactly_iff_beyond_words :
    let beyond : Literal := .number (.ofNat 0x10000000000000000)
    let zero : Literal := .number (.signed true .zero)
    let r : Resolved := ⟨"T", .ofList [("beyond", beyond), ("zero", zero)]⟩
    (Parameters.ofText "\x7bbeyond: 18446744073709551616, zero: -0\x7d" = .ok r.values ∧
        r.get? "beyond" = some beyond ∧ r.get? "zero" = some zero) ∧
      (beyond.IsWhole 0x10000000000000000 ∧ ¬ r.CountsExactly "beyond" beyond ∧
        r.count "beyond" = .ok 0xffffffffffffffff) ∧
      ¬ zero.IsWhole 0x10000000000000000 ∧ r.CountsExactly "zero" zero := by
  intro beyond zero r
  have hbeyond : r.get? "beyond" = some beyond := by decide +kernel
  have hzero : r.get? "zero" = some zero := by decide +kernel
  have hwhole : beyond.IsWhole 0x10000000000000000 := Literal.isWhole_iff.2 (by decide +kernel)
  have hother : ¬ zero.IsWhole 0x10000000000000000 := by
    rw [Literal.isWhole_iff]
    decide +kernel
  refine ⟨⟨by decide +kernel, hbeyond, hzero⟩, ⟨hwhole, ?_, ?_⟩, hother, ?_⟩
  · exact fun hexact => (countsExactly_iff hbeyond).1.1 hexact hwhole
  · exact (countsExactly_iff hbeyond).2 hwhole
  · exact (countsExactly_iff hzero).1.2 hother

end RecordFlow.Resolved
