/-! # Dictionaries

A dictionary maps strings to values. Its entries stand in strictly ascending
order of their keys, so two dictionaries with the same content are equal.
-/

namespace RecordFlow

variable {α β : Type}

def entryLess (a b : String × α) : Prop := a.1 < b.1

/-- Writes an entry into an ascending list, over an entry with the same key. -/
def insertEntry (key : String) (value : α) : List (String × α) → List (String × α)
  | [] => [(key, value)]
  | (k, v) :: rest =>
    if key < k then (key, value) :: (k, v) :: rest
    else if key = k then (key, value) :: rest
    else (k, v) :: insertEntry key value rest

theorem mem_insertEntry {key : String} {value : α} {entries : List (String × α)}
    {e : String × α} (h : e ∈ insertEntry key value entries) :
    e = (key, value) ∨ e ∈ entries := by
  induction entries with
  | nil => simpa [insertEntry] using h
  | cons head rest ih =>
    simp only [insertEntry] at h
    split at h
    · simpa using h
    · split at h
      · rcases List.mem_cons.1 h with h | h
        · exact .inl h
        · exact .inr (List.mem_cons_of_mem _ h)
      · rcases List.mem_cons.1 h with h | h
        · exact .inr (h ▸ List.mem_cons_self)
        · rcases ih h with h | h
          · exact .inl h
          · exact .inr (List.mem_cons_of_mem _ h)

theorem pairwise_insertEntry {key : String} {value : α} {entries : List (String × α)}
    (h : entries.Pairwise entryLess) : (insertEntry key value entries).Pairwise entryLess := by
  induction entries with
  | nil => simp [insertEntry]
  | cons head rest ih =>
    obtain ⟨hhead, hrest⟩ := List.pairwise_cons.1 h
    simp only [insertEntry]
    split
    · next hlt =>
      refine List.pairwise_cons.2 ⟨fun e he => ?_, h⟩
      rcases List.mem_cons.1 he with rfl | he
      · exact hlt
      · exact String.lt_trans hlt (hhead e he)
    · next hnlt =>
      split
      · next heq =>
        refine List.pairwise_cons.2 ⟨fun e he => ?_, hrest⟩
        have := hhead e he
        simpa [entryLess, heq] using this
      · next hne =>
        refine List.pairwise_cons.2 ⟨fun e he => ?_, ih hrest⟩
        rcases mem_insertEntry he with rfl | he
        · have hle : head.1 ≤ key := String.not_lt.1 hnlt
          show head.1 < key
          rcases Decidable.em (head.1 < key) with hlt | hn
          · exact hlt
          · exact absurd (String.le_antisymm (String.not_lt.1 hn) hle) hne
        · exact hhead e he

/-- A map from strings to values, its entries in ascending key order. -/
structure Dict (α : Type) where
  entries : List (String × α)
  ascending : entries.Pairwise entryLess

namespace Dict

def empty : Dict α := ⟨[], .nil⟩

instance : Inhabited (Dict α) := ⟨empty⟩

instance [DecidableEq α] : DecidableEq (Dict α) := fun a b =>
  decidable_of_iff (a.entries = b.entries) <| by
    cases a; cases b; simp

def get? (d : Dict α) (key : String) : Option α := d.entries.lookup key

def contains (d : Dict α) (key : String) : Bool := (d.get? key).isSome

def insert (d : Dict α) (key : String) (value : α) : Dict α :=
  ⟨insertEntry key value d.entries, pairwise_insertEntry d.ascending⟩

def filterKeys (d : Dict α) (test : String → Bool) : Dict α :=
  ⟨d.entries.filter fun e => test e.1, d.ascending.sublist List.filter_sublist⟩

def erase (d : Dict α) (key : String) : Dict α := d.filterKeys (· ≠ key)

/-- Writes entries one after another; a repeated key keeps its last value. -/
def insertAll (d : Dict α) (entries : List (String × α)) : Dict α :=
  entries.foldl (fun d e => d.insert e.1 e.2) d

def ofList (entries : List (String × α)) : Dict α := empty.insertAll entries

/-- The entries of `d` with those of `other` written over them. -/
def overwrite (d other : Dict α) : Dict α := d.insertAll other.entries

def keys (d : Dict α) : List String := d.entries.map (·.1)

end Dict

end RecordFlow
