import RecordFlow.Proofs.Json.Equality
import RecordFlow.Proofs.Json.RoundTrip

/-! # Labels of JSON values

The compact form of a value denotes the value, so two values have one form only if they are the
same value. A string is its own label. So the labels of two values are alike if the values
are the same, or if one is a string that spells the other. Strict equality differs from this:
it never takes a string for what it spells, and it does not tell apart the forms of a number.
-/

namespace RecordFlow.Json

variable {a b : Json}

/-- A written value is the text of no other value: it can be told from what the text denotes, although a reader
may not give it back. -/
theorem eq_of_write_eq (ha : a.Ordered) (hb : b.Ordered) (h : a.write = b.write) : a = b := by
  have hread {v : Json} (hv : v.Ordered) {depth limit : Nat} (hdepth : v.depth ≤ depth)
      (hlimit : v.write.length ≤ limit) :
      readValue (.converting NumberText.nearest?) limit depth v.write = some (v, []) := by
    have hend : Delimited [] := nofun
    rw [← write_compact v 0] at hlimit
    have hrest := readValue_write NumberText.nearest? Layout.compact hv hdepth hlimit hend
    rwa [List.append_nil, write_compact, reread?_eq_self_iff.2 fun n _ => n.reread?_nearest?] at hrest
  have hfirst := hread ha (Nat.le_max_left a.depth b.depth) (Nat.le_refl _)
  have hsecond := hread hb (Nat.le_max_right a.depth b.depth) (Nat.le_of_eq (congrArg List.length h.symm))
  rw [← h, hfirst] at hsecond
  cases hsecond
  rfl

theorem compact_eq_compact_iff (ha : a.Ordered) (hb : b.Ordered) : a.compact = b.compact ↔ a = b := by
  constructor
  · intro h
    exact eq_of_write_eq ha hb (String.ofList_injective h)
  · rintro rfl
    rfl

/-- A string spells a value that is no string if its text is the compact form of the value. -/
inductive Spells : Json → Json → Prop
  | string {v : Json} (h : v.kind ≠ .string) : Spells (string v.compact) v

theorem label_of_kind_ne (h : a.kind ≠ .string) : a.label = a.compact := by
  cases a with
  | string s => exact absurd rfl h
  | null | bool | number | array | object => rfl

theorem exists_string_of_kind (h : a.kind = .string) : ∃ s, a = string s := by
  cases a with
  | string s => exact ⟨s, rfl⟩
  | null | bool | number | array | object => cases h

/-- Two values have one label if they are the same value, or if one of them spells the other. -/
theorem label_eq_label_iff (ha : a.Ordered) (hb : b.Ordered) :
    a.label = b.label ↔ a = b ∨ Spells a b ∨ Spells b a := by
  constructor
  · intro h
    by_cases hastring : a.kind = .string
    · obtain ⟨s, rfl⟩ := exists_string_of_kind hastring
      by_cases hbstring : b.kind = .string
      · obtain ⟨t, rfl⟩ := exists_string_of_kind hbstring
        exact .inl (congrArg string h)
      · obtain rfl : s = b.compact := h.trans (label_of_kind_ne hbstring)
        exact .inr (.inl (.string hbstring))
    · rw [label_of_kind_ne hastring] at h
      by_cases hbstring : b.kind = .string
      · obtain ⟨t, rfl⟩ := exists_string_of_kind hbstring
        obtain rfl : a.compact = t := h
        exact .inr (.inr (.string hastring))
      · rw [label_of_kind_ne hbstring, compact_eq_compact_iff ha hb] at h
        exact .inl h
  · rintro (rfl | hspells | hspells)
    · rfl
    · obtain ⟨hkind⟩ := hspells
      exact (label_of_kind_ne hkind).symm
    · obtain ⟨hkind⟩ := hspells
      exact label_of_kind_ne hkind

theorem Spells.not_strictEquals (h : Spells a b) : ¬ a.strictEquals b := by
  intro hequal
  obtain ⟨hkind⟩ := h
  exact hkind (kind_eq_of_strictEquals hequal).symm

/-- Labels tell values apart as strict equality does, unless one spells the other, or they are equal in
different forms. -/
theorem label_agrees_iff (ha : a.Ordered) (hb : b.Ordered) :
    (a.label = b.label ↔ a.strictEquals b) ↔ ¬ Spells a b ∧ ¬ Spells b a ∧ (a.strictEquals b → a = b) := by
  rw [label_eq_label_iff ha hb]
  constructor
  · intro h
    have hab : ¬ Spells a b := fun hspells => hspells.not_strictEquals (h.1 (.inr (.inl hspells)))
    have hba : ¬ Spells b a := fun hspells =>
      hspells.not_strictEquals (equivalence_strictEquals.symm (h.1 (.inr (.inr hspells))))
    refine ⟨hab, hba, fun hequal => ?_⟩
    rcases h.2 hequal with heq | hspells | hspells
    · exact heq
    · exact absurd hspells hab
    · exact absurd hspells hba
  · rintro ⟨hab, hba, hsame⟩
    constructor
    · rintro (rfl | hspells | hspells)
      · exact equivalence_strictEquals.refl a
      · exact absurd hspells hab
      · exact absurd hspells hba
    · exact fun hequal => .inl (hsame hequal)

end RecordFlow.Json
