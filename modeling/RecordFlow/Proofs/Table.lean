import RecordFlow.Proofs.Dict
import RecordFlow.Table

/-! # The content of tables

What is found in a table under a key is what stands with the key. Which entry was
written last makes no difference to the order of the others.
-/

namespace RecordFlow.Table

variable {α : Type} {t : Table α} {key k : String} {v : α}

theorem get?_eq_some_iff : t.get? k = some v ↔ (k, v) ∈ t.entries := lookup_eq_some_iff_mem t.distinct

theorem contains_iff_mem_keys : t.contains k ↔ k ∈ t.keys := by
  rw [contains, Option.isSome_iff_exists, keys, List.mem_map]
  constructor
  · rintro ⟨v, hv⟩
    exact ⟨(k, v), get?_eq_some_iff.1 hv, rfl⟩
  · rintro ⟨⟨_, v⟩, hmem, rfl⟩
    exact ⟨v, get?_eq_some_iff.2 hmem⟩

theorem get?_insert (t : Table α) (key k : String) (value : α) :
    (t.insert key value).get? k = if k = key then some value else t.get? k := by
  refine Option.ext fun v => ?_
  rw [get?_eq_some_iff, insert, List.mem_cons, List.mem_filter, ← get?_eq_some_iff]
  split
  · next h => simp [h, eq_comm]
  · next h => simp [h]

def insertAll (t : Table α) (entries : List (String × α)) : Table α :=
  entries.foldl (fun t e => t.insert e.1 e.2) t

theorem get?_insertAll (t : Table α) (entries : List (String × α)) (k : String) :
    (t.insertAll entries).get? k = (entries.reverse.lookup k).or (t.get? k) := by
  induction entries generalizing t with
  | nil => rfl
  | cons e entries ih =>
    have hstep : t.insertAll (e :: entries) = (t.insert e.1 e.2).insertAll entries := rfl
    rw [hstep, ih, get?_insert, List.reverse_cons, List.lookup_append, Option.or_assoc]
    congr 1
    rw [lookup_cons_eq_ite]
    split <;> rfl

end RecordFlow.Table
