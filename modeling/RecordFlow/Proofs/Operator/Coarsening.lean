import RecordFlow.Proofs.Operator.Failure
import RecordFlow.Proofs.Operator.Numbers
import RecordFlow.Regex.Engine

/-! # Coarsening record by record

A coarsening keeps the records with its target and rewrites nothing but the target in
them. What a record becomes depends on the other records only through the largest number,
and so the order of the records does not matter.
-/

namespace RecordFlow

namespace Fuzz

variable {f : Fuzz} {records records' : List Record} {xs ys : List Binary64}

def replacement (f : Fuzz) (xs : List Binary64) (x : Binary64) : Json :=
  match f.coarsening with
  | .range bin => .string (bin x).toText
  | .percent => percentage x ((maximum? xs).getD .zero)

theorem replacement_of_range {bin : Binary64 → Bin} (h : f.coarsening = .range bin) (xs : List Binary64)
    (x : Binary64) : f.replacement xs x = .string (bin x).toText := by
  rw [replacement, h]

theorem replacement_of_percent (h : f.coarsening = .percent) (xs : List Binary64) (x : Binary64) :
    f.replacement xs x = percentage x ((maximum? xs).getD .zero) := by
  rw [replacement, h]

def rewrite (f : Fuzz) (xs : List Binary64) (record : Record) : Record :=
  ((record.number? f.target).map fun x => record.insert f.target (f.replacement xs x)).getD record

theorem get?_rewrite_of_ne {key : String} (h : key ≠ f.target) (xs : List Binary64) (record : Record) :
    (f.rewrite xs record).get? key = record.get? key := by
  unfold rewrite
  cases record.number? f.target with
  | none => rfl
  | some x => rw [Option.map_some, Option.getD_some, Dict.get?_insert, if_neg h]

theorem contains_rewrite {record : Record} (h : record.contains f.target) (xs : List Binary64) :
    (f.rewrite xs record).contains f.target := by
  unfold rewrite
  cases record.number? f.target with
  | none => exact h
  | some x =>
    rw [Option.map_some, Option.getD_some, Dict.contains, Dict.get?_insert, if_pos rfl]
    rfl

/-- What a coarsening needs: numbers only, and for percentages a largest one that is not zero, if there is any. -/
structure Applies (f : Fuzz) (records : List Record) : Prop where
  numeric : ∀ record ∈ records, record.Numeric f.target
  ne_zero : f.coarsening = .percent → ∀ m : Binary64, m.Largest (numbersOf f.target records) → m.value ≠ 0

theorem largest_of_maximum?_numbersOf {m : Binary64} (h : maximum? (numbersOf f.target records) = some m) :
    m.Largest (numbersOf f.target records) :=
  largest_of_maximum? (fun _ => isFinite_of_mem_numbersOf) h

theorem equals_zero_iff_of_largest {m : Binary64} (h : m.Largest (numbersOf f.target records)) :
    m.equals .zero ↔ m.value = 0 :=
  Binary64.equals_zero_iff (Json.ne_nan_of_isFinite (isFinite_of_mem_numbersOf h.mem))

theorem apply_of_applies (h : f.Applies records) :
    f.apply records = .ok ((records.filter (·.contains f.target)).map (f.rewrite (numbersOf f.target records))) := by
  have hfound : _ = List.map (f.rewrite (numbersOf f.target records)) _ := map_numbered h.numeric fun record x =>
    record.insert f.target (f.replacement (numbersOf f.target records) x)
  rw [← hfound]
  cases hcoarsening : f.coarsening with
  | range bin =>
    simp only [apply, hcoarsening, applyRange, numbers_of_numeric _ h.numeric, replacement_of_range hcoarsening]
    rfl
  | percent =>
    simp only [apply, hcoarsening, applyPercent, numbers_of_numeric _ h.numeric, map_snd_numbered,
      replacement_of_percent hcoarsening]
    cases hm : maximum? (numbersOf f.target records) with
    | none =>
      have hnil : numbered f.target records = [] := by
        rw [← List.map_eq_nil_iff (f := Prod.snd), map_snd_numbered]
        exact maximum?_eq_none_iff.1 hm
      rw [hnil]
      rfl
    | some m =>
      have hlargest := largest_of_maximum?_numbersOf hm
      have hequals : ¬ m.equals .zero := (equals_zero_iff_of_largest hlargest).not.2 (h.ne_zero hcoarsening m hlargest)
      simp only [if_neg hequals]
      rfl

theorem exists_apply_error (h : ¬ f.Applies records) : ∃ fault, f.apply records = .error fault := by
  by_cases hnumeric : ∀ record ∈ records, record.Numeric f.target
  · obtain ⟨hcoarsening, m, hm, hzero⟩ : f.coarsening = .percent ∧
        ∃ m : Binary64, m.Largest (numbersOf f.target records) ∧ m.value = 0 := by
      by_contra hne
      exact h ⟨hnumeric, fun hpercent m hm hzero => hne ⟨hpercent, m, hm, hzero⟩⟩
    simp only [apply, hcoarsening, applyPercent, numbers_of_numeric _ hnumeric, map_snd_numbered]
    cases hmaximum : maximum? (numbersOf f.target records) with
    | none =>
      have hmem := hm.mem
      rw [maximum?_eq_none_iff.1 hmaximum] at hmem
      cases hmem
    | some m' =>
      -- `m'` may be the other zero
      have hlargest := largest_of_maximum?_numbersOf hmaximum
      have hequals : m'.equals .zero := (equals_zero_iff_of_largest hlargest).2 ((hlargest.value_eq hm).trans hzero)
      exact ⟨.zeroMaximum, if_pos hequals⟩
  · have hother : ∃ record ∈ records, ¬ record.Numeric f.target := by simpa using hnumeric
    have hnumbers (fault : Json.Kind → DataFault) := (exists_numbers_error_iff fault).2 hother
    cases hcoarsening : f.coarsening with
    | range bin =>
      obtain ⟨fault, hfault⟩ := hnumbers .rangeOf
      exact ⟨fault, by simp only [apply, hcoarsening, applyRange, hfault]; rfl⟩
    | percent =>
      obtain ⟨fault, hfault⟩ := hnumbers .percentOf
      exact ⟨fault, by simp only [apply, hcoarsening, applyPercent, hfault]⟩

theorem exists_apply_error_iff : (∃ fault, f.apply records = .error fault) ↔ ¬ f.Applies records := by
  refine ⟨fun ⟨fault, hfault⟩ h => ?_, exists_apply_error⟩
  cases hfault.symm.trans (apply_of_applies h)

/-- Which of two zeros is found as the largest number depends on the order, but a largest number that is not zero
does not. -/
theorem maximum?_eq_of_perm (hperm : xs.Perm ys) (hxs : ∀ x ∈ xs, x.isFinite)
    (hne : ∀ m : Binary64, m.Largest xs → m.value ≠ 0) : maximum? xs = maximum? ys := by
  have hys : ∀ y ∈ ys, y.isFinite := fun y hy => hxs y (hperm.mem_iff.2 hy)
  cases hm : maximum? xs with
  | none =>
    rw [maximum?_eq_none_iff.1 hm] at hperm
    exact (maximum?_eq_none_iff.2 hperm.nil_eq.symm).symm
  | some m =>
    have hlargest := largest_of_maximum? hxs hm
    cases hm' : maximum? ys with
    | none =>
      rw [maximum?_eq_none_iff.1 hm'] at hperm
      rw [hperm.eq_nil] at hm
      cases hm
    | some m' =>
      have hlargest' := (largest_of_maximum? hys hm').of_perm hperm.symm
      rw [hlargest.unique hlargest' hxs (hne m hlargest)]

theorem numbersOf_perm {target : String} (h : records'.Perm records) :
    (numbersOf target records').Perm (numbersOf target records) := h.filterMap _

theorem Applies.of_perm (h : f.Applies records) (hperm : records'.Perm records) : f.Applies records' where
  numeric record hrecord := h.numeric record (hperm.mem_iff.1 hrecord)
  ne_zero hpercent m hm := h.ne_zero hpercent m (hm.of_perm (numbersOf_perm hperm))

theorem rewrite_eq_of_perm (h : f.Applies records) (hperm : records'.Perm records) :
    f.rewrite (numbersOf f.target records') = f.rewrite (numbersOf f.target records) := by
  have hreplacement : f.replacement (numbersOf f.target records') = f.replacement (numbersOf f.target records) := by
    funext x
    cases hcoarsening : f.coarsening with
    | range bin => rw [replacement_of_range hcoarsening, replacement_of_range hcoarsening]
    | percent =>
      rw [replacement_of_percent hcoarsening, replacement_of_percent hcoarsening,
        maximum?_eq_of_perm (numbersOf_perm hperm) (fun _ => isFinite_of_mem_numbersOf)
          ((h.of_perm hperm).ne_zero hcoarsening)]
  funext record
  rw [rewrite, rewrite, hreplacement]

end Fuzz

namespace Node

theorem exists_not_numeric_iff {target : String} {r : Resource} :
    (∃ record ∈ r.recordsWith target, ¬ record.Numeric target) ↔
      ¬ ∀ record ∈ r.records, record.Numeric target := by
  rw [not_forall₂]
  constructor
  · rintro ⟨record, hmem, h⟩
    exact ⟨record, (List.mem_filter.1 hmem).1, h⟩
  · rintro ⟨record, hmem, h⟩
    exact ⟨record, List.mem_filter.2 ⟨hmem, Record.contains_of_not_numeric h⟩, h⟩

variable [Engine]

variable {bound : Parameters} {overrides : Option Parameters} {f : Fuzz}

theorem process_of_plan_fuzz (h : Operator.fuzz.plan bound overrides = .ok (.fuzz f)) (r : Resource) :
    (ofOperator .fuzz bound).process overrides r =
      Operator.fuzz.onData ((f.apply r.records).map fun records => { r with records }) := by
  rw [process_ofOperator, h]
  rfl

theorem process_fuzz_of_applies (hplan : Operator.fuzz.plan bound overrides = .ok (.fuzz f)) {r : Resource}
    (h : f.Applies r.records) : (ofOperator .fuzz bound).process overrides r =
      .ok { r with records := (r.recordsWith f.target).map (f.rewrite (numbersOf f.target r.records)) } := by
  rw [process_of_plan_fuzz hplan, Fuzz.apply_of_applies h]
  rfl

theorem exists_process_fuzz_error_iff (hplan : Operator.fuzz.plan bound overrides = .ok (.fuzz f)) {r : Resource} :
    (∃ e, (ofOperator .fuzz bound).process overrides r = .error e) ↔ ¬ f.Applies r.records := by
  rw [← Fuzz.exists_apply_error_iff, process_of_plan_fuzz hplan]
  cases f.apply r.records with
  | ok records => exact iff_of_false nofun nofun
  | error fault => exact iff_of_true ⟨_, rfl⟩ ⟨_, rfl⟩

theorem applies_of_process_fuzz (hplan : Operator.fuzz.plan bound overrides = .ok (.fuzz f)) {r r' : Resource}
    (h : (ofOperator .fuzz bound).process overrides r = .ok r') : f.Applies r.records := by
  by_contra hnot
  obtain ⟨e, he⟩ := (exists_process_fuzz_error_iff hplan).2 hnot
  cases he.symm.trans h

/-- A coarsening to ranges fails if and only if a record has another value than a number under the target, and
one to percentages fails for the same reason or for a largest number that is zero. When a coarsening succeeds, it
keeps the records with the target in their order, and it changes no other field of them. The records in another
order fail with it or give what each record gives, in that order. -/
theorem process_fuzz (hplan : Operator.fuzz.plan bound overrides = .ok (.fuzz f)) (r : Resource) :
    let n := ofOperator .fuzz bound
    let fails (r : Resource) := ∃ e, n.process overrides r = .error e
    let nonNumeric := ∃ record ∈ r.recordsWith f.target, ¬ record.Numeric f.target
    (∀ bin, f.coarsening = .range bin → (fails r ↔ nonNumeric)) ∧
    (f.coarsening = .percent → (fails r ↔ nonNumeric ∨
      ∃ m : Binary64, m.Largest (numbersOf f.target r.records) ∧ m.value = 0)) ∧
    (∀ r', n.process overrides r = .ok r' → ∃ g : Record → Record,
      (∀ record key, key ≠ f.target → (g record).get? key = record.get? key) ∧
      (∀ record, record.contains f.target → (g record).contains f.target) ∧
      r' = { r with records := (r.recordsWith f.target).map g } ∧
      ∀ records, records.Perm r.records → n.process overrides { r with records } =
        .ok { r with records := (records.filter (·.contains f.target)).map g }) ∧
    ∀ records, records.Perm r.records → (fails { r with records } ↔ fails r) := by
  intro n fails nonNumeric
  have hfails (r : Resource) : fails r ↔ ¬ f.Applies r.records := exists_process_fuzz_error_iff hplan
  have hnonNumeric : nonNumeric ↔ ¬ ∀ record ∈ r.records, record.Numeric f.target := exists_not_numeric_iff
  refine ⟨?_, ?_, ?_, ?_⟩
  · intro bin hrange
    rw [hfails, hnonNumeric]
    refine not_congr ⟨Fuzz.Applies.numeric, fun h => ⟨h, fun hpercent => ?_⟩⟩
    cases hrange.symm.trans hpercent
  · intro hpercent
    rw [hfails, hnonNumeric, ← not_iff_not, not_not, not_or, not_not]
    push Not
    exact ⟨fun h => ⟨h.numeric, h.ne_zero hpercent⟩, fun h => ⟨h.1, fun _ => h.2⟩⟩
  · intro r' h
    have happlies := applies_of_process_fuzz hplan h
    refine ⟨f.rewrite (numbersOf f.target r.records), ?_, ?_, ?_, ?_⟩
    · exact fun record key hkey => Fuzz.get?_rewrite_of_ne hkey _ record
    · exact fun record hrecord => Fuzz.contains_rewrite hrecord _
    · exact Except.ok.inj (h.symm.trans (process_fuzz_of_applies hplan happlies))
    · intro records hperm
      refine (process_fuzz_of_applies (r := { r with records }) hplan (happlies.of_perm hperm)).trans ?_
      rw [Fuzz.rewrite_eq_of_perm happlies hperm]
      rfl
  · intro records hperm
    rw [hfails, hfails]
    exact not_congr ⟨fun h => h.of_perm hperm.symm, fun h => h.of_perm hperm⟩

theorem exists_eq_ok_of_isOk {α : Type} {x : Except Error α} (h : x.isOk) : ∃ a, x = .ok a := by
  cases x with
  | error e => cases h
  | ok a => exact ⟨a, rfl⟩

end Node

end RecordFlow

namespace RecordFlow.Node

open scoped Regex

/-- Turned around, records are turned into the percentages in the other order. Zeros alone have no percentages. -/
theorem process_fuzz_reverse :
    let bound : Parameters := .ofList [("fuzzType", .scalar (.string "percent")),
      ("target", .scalar (.string "level"))]
    let f : Fuzz := ⟨"level", .percent⟩
    let n := ofOperator .fuzz bound
    let record (level : Json) : Record := .ofList [("at", .ofNat 1), ("level", level)]
    let r : Resource := ⟨"event", none, [record (.ofNat 10), .ofList [("at", .ofNat 2)], record (.ofNat 50)]⟩
    let zeros : Resource := ⟨"event", none, [record (.ofNat 0), record (.ofNat 0)]⟩
    Operator.fuzz.plan bound none = .ok (.fuzz f) ∧ r.records.reverse.Perm r.records ∧
      (∃ r', n.process none r = .ok r' ∧ r'.size = 2 ∧
        n.process none { r with records := r.records.reverse } = .ok { r with records := r'.records.reverse }) ∧
      ∃ e, n.process none zeros = .error e := by
  intro bound f n record r zeros
  have hplan : Operator.fuzz.plan bound none = .ok (.fuzz f) := by rfl
  have hperm : r.records.reverse.Perm r.records := List.reverse_perm r.records
  refine ⟨hplan, hperm, ?_, ?_⟩
  · obtain ⟨-, -, hok, -⟩ := process_fuzz hplan r
    obtain ⟨r', hprocess⟩ := exists_eq_ok_of_isOk (x := n.process none r) (by decide +kernel)
    obtain ⟨g, -, -, rfl, hreordered⟩ := hok r' hprocess
    refine ⟨_, hprocess, (List.length_map g).trans (by decide +kernel), ?_⟩
    rw [hreordered r.records.reverse hperm, List.filter_reverse, List.map_reverse]
    rfl
  · obtain ⟨-, hpercent, -, -⟩ := process_fuzz hplan zeros
    refine (hpercent rfl).2 (.inr ⟨.ofNat 0, ⟨by decide +kernel, ?_⟩, ?_⟩)
    · decide +kernel
    · decide +kernel

end RecordFlow.Node
