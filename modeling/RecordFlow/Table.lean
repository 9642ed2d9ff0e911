/-! # Tables

A table maps strings to values. Its entries stand in no particular order, so
whoever lists them has to sort them.
-/

namespace RecordFlow

variable {α : Type}

structure Table (α : Type) where
  entries : List (String × α)
  distinct : (entries.map Prod.fst).Nodup

namespace Table

def empty : Table α := ⟨[], List.nodup_nil⟩

def get? (t : Table α) (key : String) : Option α := t.entries.lookup key

def contains (t : Table α) (key : String) : Bool := (t.get? key).isSome

/-- Writes an entry over the one with the same key. -/
def insert (t : Table α) (key : String) (value : α) : Table α where
  entries := (key, value) :: t.entries.filter (·.1 ≠ key)
  distinct := by
    refine List.nodup_cons.2 ⟨fun hmem => ?_, t.distinct.sublist (List.filter_sublist.map Prod.fst)⟩
    obtain ⟨e, he, hkey⟩ := List.mem_map.1 hmem
    exact of_decide_eq_true (List.mem_filter.1 he).2 hkey

def keys (t : Table α) : List String := t.entries.map Prod.fst

def size (t : Table α) : Nat := t.entries.length

def isEmpty (t : Table α) : Bool := t.entries.isEmpty

end Table

end RecordFlow
