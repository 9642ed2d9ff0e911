import RecordFlow.Dict

/-! # The content of dictionaries

A dictionary is determined by what is found under its keys. After entries are
written one after another, a key has the value of its last entry.
-/

namespace RecordFlow

variable {α : Type}

theorem lookup_cons_eq_ite (k : String) (e : String × α) (rest : List (String × α)) :
    (e :: rest).lookup k = if k = e.1 then some e.2 else rest.lookup k := by
  obtain ⟨key, value⟩ := e
  rw [List.lookup_cons]
  by_cases h : k = key
  · simp [h]
  · rw [if_neg h, beq_eq_false_iff_ne.mpr h]

theorem lookup_insertEntry {key k : String} {value : α} (entries : List (String × α)) :
    (insertEntry key value entries).lookup k = if k = key then some value else entries.lookup k := by
  induction entries with
  | nil => exact lookup_cons_eq_ite k (key, value) []
  | cons e rest ih =>
    simp only [insertEntry]
    split
    · rw [lookup_cons_eq_ite]
    split
    · next h =>
      rw [lookup_cons_eq_ite, lookup_cons_eq_ite k e, ← h]
      split <;> rfl
    · next h =>
      rw [lookup_cons_eq_ite, ih, lookup_cons_eq_ite k e]
      by_cases hk : k = e.1
      · rw [if_pos hk, if_pos hk, if_neg (by rw [hk]; exact Ne.symm h)]
      · rw [if_neg hk, if_neg hk]

theorem lookup_eq_none_of_lt {k : String} {entries : List (String × α)}
    (h : ∀ e ∈ entries, k < e.1) : entries.lookup k = none := by
  refine List.lookup_eq_none_iff.mpr fun e he => ?_
  have hne : k ≠ e.1 := fun heq => String.lt_irrefl k (by have := h e he; rwa [← heq] at this)
  simpa using hne

theorem not_lt_of_lookup_eq {e f : String × α} {entries others : List (String × α)}
    (hf : ∀ x ∈ others, entryLess f x) (h : (e :: entries).lookup e.1 = (f :: others).lookup e.1) :
    ¬ e.1 < f.1 := by
  intro hlt
  have hnone : (f :: others).lookup e.1 = none := by
    refine lookup_eq_none_of_lt fun x hx => ?_
    rcases List.mem_cons.mp hx with rfl | hx
    · exact hlt
    · exact String.lt_trans hlt (hf x hx)
  rw [hnone, lookup_cons_eq_ite, if_pos rfl] at h
  cases h

theorem eq_of_lookup_eq : ∀ {entries others : List (String × α)}, entries.Pairwise entryLess →
    others.Pairwise entryLess → (∀ k, entries.lookup k = others.lookup k) → entries = others
  | [], [], _, _, _ => rfl
  | [], e :: others, _, _, h => by
    have := h e.1
    simp [lookup_cons_eq_ite] at this
  | e :: entries, [], _, _, h => by
    have := h e.1
    simp [lookup_cons_eq_ite] at this
  | e :: entries, f :: others, hs, ht, h => by
    obtain ⟨hhead, hs⟩ := List.pairwise_cons.mp hs
    obtain ⟨hhead', ht⟩ := List.pairwise_cons.mp ht
    have hkey : e.1 = f.1 := by
      refine String.le_antisymm (String.not_lt.mp ?_) (String.not_lt.mp ?_)
      · exact not_lt_of_lookup_eq hhead (h f.1).symm
      · exact not_lt_of_lookup_eq hhead' (h e.1)
    have hvalue : e.2 = f.2 := by
      have := h e.1
      simpa [lookup_cons_eq_ite, hkey] using this
    have htail : entries = others := by
      refine eq_of_lookup_eq hs ht fun k => ?_
      by_cases hk : k = e.1
      · rw [hk, lookup_eq_none_of_lt hhead, lookup_eq_none_of_lt (hkey ▸ hhead')]
      · have := h k
        rwa [lookup_cons_eq_ite, lookup_cons_eq_ite, ← hkey, if_neg hk, if_neg hk] at this
    rw [htail, Prod.ext hkey hvalue]

/-- If no key is repeated, what is found under a key is what stands with it. -/
theorem lookup_eq_some_iff_mem {entries : List (String × α)} (h : (entries.map Prod.fst).Nodup)
    {k : String} {v : α} : entries.lookup k = some v ↔ (k, v) ∈ entries := by
  induction entries with
  | nil => simp
  | cons e rest ih =>
    obtain ⟨hhead, hrest⟩ := List.nodup_cons.1 h
    rw [lookup_cons_eq_ite, List.mem_cons]
    split
    · next hk =>
      have hnot : (k, v) ∉ rest := fun hmem => hhead (List.mem_map.2 ⟨(k, v), hmem, hk⟩)
      rw [or_iff_left hnot, Option.some.injEq, Prod.ext_iff, eq_comm]
      exact (and_iff_right hk).symm
    · next hk =>
      rw [ih hrest]
      refine ⟨.inr, fun hmem => hmem.resolve_left fun heq => hk (congrArg Prod.fst heq)⟩

theorem lookup_of_perm {entries others : List (String × α)} (hperm : entries.Perm others)
    (h : (others.map Prod.fst).Nodup) (k : String) : entries.lookup k = others.lookup k := by
  refine Option.ext fun v => ?_
  rw [lookup_eq_some_iff_mem ((hperm.map Prod.fst).nodup_iff.2 h), lookup_eq_some_iff_mem h, hperm.mem_iff]

namespace Dict

theorem nodup_keys (d : Dict α) : (d.entries.map Prod.fst).Nodup := by
  refine List.pairwise_map.2 (d.ascending.imp fun hlt heq => ?_)
  rw [entryLess, heq] at hlt
  exact String.lt_irrefl _ hlt

theorem get?_eq_some_iff {d : Dict α} {k : String} {v : α} :
    d.get? k = some v ↔ (k, v) ∈ d.entries :=
  lookup_eq_some_iff_mem d.nodup_keys

theorem contains_of_some {d : Dict α} {k : String} {v : α} (h : d.get? k = some v) : d.contains k := by
  rw [contains, h]
  rfl

theorem contains_iff_mem_keys {d : Dict α} {k : String} : d.contains k ↔ k ∈ d.keys := by
  rw [contains, Option.isSome_iff_exists, keys, List.mem_map]
  constructor
  · rintro ⟨v, hv⟩
    exact ⟨(k, v), get?_eq_some_iff.1 hv, rfl⟩
  · rintro ⟨⟨_, v⟩, hmem, rfl⟩
    exact ⟨v, get?_eq_some_iff.2 hmem⟩

@[simp] theorem get?_empty (k : String) : (empty : Dict α).get? k = none := rfl

theorem get?_getD_empty (d : Option (Dict α)) (k : String) : (d.getD .empty).get? k = d.bind (·.get? k) := by
  cases d <;> rfl

theorem get?_insert (d : Dict α) (key k : String) (value : α) :
    (d.insert key value).get? k = if k = key then some value else d.get? k :=
  lookup_insertEntry d.entries

theorem get?_filterKeys (d : Dict α) (test : String → Bool) (k : String) :
    (d.filterKeys test).get? k = if test k then d.get? k else none := by
  refine Option.ext fun v => ?_
  rw [get?_eq_some_iff, filterKeys, List.mem_filter, ← get?_eq_some_iff]
  split
  · next h => exact and_iff_left h
  · next h => simp [h]

theorem get?_erase (d : Dict α) (key k : String) :
    (d.erase key).get? k = if k = key then none else d.get? k := by
  rw [erase, get?_filterKeys, decide_not]
  by_cases h : k = key <;> simp [h]

theorem ext_get? {d e : Dict α} (h : ∀ k, d.get? k = e.get? k) : d = e := by
  obtain ⟨entries, hs⟩ := d
  obtain ⟨others, ht⟩ := e
  obtain rfl : entries = others := eq_of_lookup_eq hs ht h
  rfl

theorem insert_erase (d : Dict α) (key : String) (value : α) :
    (d.erase key).insert key value = d.insert key value := by
  refine ext_get? fun k => ?_
  rw [get?_insert, get?_insert, get?_erase]
  split <;> rfl

theorem insert_of_get? {d : Dict α} {key : String} {value : α} (h : d.get? key = some value) :
    d.insert key value = d := by
  refine ext_get? fun k => ?_
  rw [get?_insert]
  split
  · next hk => rw [hk, h]
  · rfl

theorem get?_insertAll (d : Dict α) (entries : List (String × α)) (k : String) :
    (d.insertAll entries).get? k = (entries.reverse.lookup k).or (d.get? k) := by
  induction entries generalizing d with
  | nil => rfl
  | cons e entries ih =>
    have hstep : d.insertAll (e :: entries) = (d.insert e.1 e.2).insertAll entries := rfl
    rw [hstep, ih, get?_insert, List.reverse_cons, List.lookup_append, Option.or_assoc]
    congr 1
    rw [lookup_cons_eq_ite]
    split <;> rfl

theorem get?_ofList (entries : List (String × α)) (k : String) :
    (ofList entries).get? k = entries.reverse.lookup k := by
  rw [ofList, get?_insertAll, get?_empty, Option.or_none]

theorem get?_ofList_eq_none_iff {entries : List (String × α)} {k : String} :
    (ofList entries).get? k = none ↔ k ∉ entries.map Prod.fst := by
  rw [get?_ofList, List.lookup_eq_none_iff, List.mem_map, not_exists]
  refine forall_congr' fun e => ?_
  rw [List.mem_reverse, not_and, bne_iff_ne]
  exact imp_congr_right fun _ => ⟨fun h heq => h heq.symm, fun h heq => h heq.symm⟩

theorem eq_ofList_iff {d : Dict α} {entries : List (String × α)} :
    ofList entries = d ↔ ∀ k, d.get? k = entries.reverse.lookup k := by
  constructor
  · rintro rfl k; exact get?_ofList entries k
  · intro h
    exact ext_get? fun k => (get?_ofList entries k).trans (h k).symm

theorem mem_of_mem_ofList {entries : List (String × α)} {e : String × α}
    (h : e ∈ (ofList entries).entries) : e ∈ entries := by
  have hlookup := get?_eq_some_iff.2 h
  rw [get?_ofList] at hlookup
  obtain ⟨before, after, heq, -⟩ := List.lookup_eq_some_iff.1 hlookup
  rw [← List.mem_reverse, heq]
  simp

theorem get?_ofList_of_nodup {entries : List (String × α)} (h : (entries.map Prod.fst).Nodup) (k : String) :
    (ofList entries).get? k = entries.lookup k := by
  rw [get?_ofList, lookup_of_perm (List.reverse_perm entries) h]

theorem ofList_of_perm {d : Dict α} {entries : List (String × α)} (h : entries.Perm d.entries) :
    ofList entries = d := by
  have hnodup : (entries.map Prod.fst).Nodup := (h.map Prod.fst).nodup_iff.2 d.nodup_keys
  refine ext_get? fun k => ?_
  rw [get?_ofList_of_nodup hnodup, lookup_of_perm h d.nodup_keys]
  rfl

/-- What is written over a dictionary comes before what was there. -/
theorem get?_overwrite (d other : Dict α) (k : String) :
    (d.overwrite other).get? k = (other.get? k).or (d.get? k) := by
  have hother : ofList other.entries = other := ofList_of_perm (.refl _)
  rw [overwrite, get?_insertAll, ← get?_ofList, hother]

end Dict

end RecordFlow
