import RecordFlow.Json.Reader
import RecordFlow.Proofs.Json.Values

/-! # Values that were read

Whatever text a value was read from, the fields of its objects stand in key order. What
holds of every item that a reader gives holds of the items of a bracket, and fields are
put in order when their object is closed.
-/

namespace RecordFlow.Json

section Items

variable {α : Type} {P : α → Prop} {close : Char} {item : List Char → Option (α × List Char)}
  {limit : Nat} {text rest : List Char} {xs : List α}

theorem forall_of_readSeparated (hitem : ∀ text x rest, item text = some (x, rest) → P x)
    (h : readSeparated close item limit text = some (xs, rest)) : ∀ x ∈ xs, P x := by
  induction limit generalizing text xs with
  | zero => cases h
  | succ limit ih =>
    unfold readSeparated at h
    split at h
    · cases h
    · next x next hx =>
      have hfirst := hitem _ _ _ hx
      split at h
      · cases h
      · split at h
        · cases h
          exact List.forall_mem_singleton.2 hfirst
        split at h
        · obtain ⟨⟨ys, rest'⟩, hys, heq⟩ := Option.map_eq_some_iff.1 h
          cases heq
          exact List.forall_mem_cons.2 ⟨hfirst, ih hys⟩
        · cases h

theorem forall_of_readItems (hitem : ∀ text x rest, item text = some (x, rest) → P x)
    (h : readItems close item limit text = some (xs, rest)) : ∀ x ∈ xs, P x := by
  unfold readItems at h
  split at h
  · cases h
  · split at h
    · cases h
      exact List.forall_mem_nil _
    · exact forall_of_readSeparated hitem h

theorem exists_of_readMember {decoding : Decoding} {value : String → List Char → Option (α × List Char)}
    {key : String} {x : α} (h : readMember decoding value text = some ((key, x), rest)) :
    ∃ text, value key text = some (x, rest) := by
  unfold readMember at h
  split at h
  · obtain ⟨⟨pieces, more⟩, -, h⟩ := Option.bind_eq_some_iff.1 h
    obtain ⟨key', -, h⟩ := Option.bind_eq_some_iff.1 h
    split at h
    · obtain ⟨⟨x', rest'⟩, hx, h⟩ := Option.bind_eq_some_iff.1 h
      cases h
      exact ⟨_, hx⟩
    · cases h
  · cases h

end Items

theorem ordered_of_readScalar {text rest : List Char} {v : Json} (h : readScalar .exact text = some (v, rest)) :
    v.Ordered := by
  unfold readScalar at h
  split at h
  · cases h
    exact .null
  · cases h
    exact .bool true
  · cases h
    exact .bool false
  · obtain ⟨⟨pieces, more⟩, -, h⟩ := Option.bind_eq_some_iff.1 h
    obtain ⟨s, -, h⟩ := Option.bind_eq_some_iff.1 h
    cases h
    exact .string s
  · obtain ⟨⟨n, more⟩, -, h⟩ := Option.bind_eq_some_iff.1 h
    obtain ⟨value, hvalue, h⟩ := Option.bind_eq_some_iff.1 h
    obtain ⟨number, -, rfl⟩ := Option.map_eq_some_iff.1 hvalue
    cases h
    exact .number number

/-- A value that was read is as values are held in memory. -/
theorem ordered_of_readValue {limit depth : Nat} {text rest : List Char} {v : Json}
    (h : readValue .exact limit depth text = some (v, rest)) : v.Ordered := by
  induction depth generalizing text rest v with
  | zero =>
    rw [readValue.eq_def] at h
    dsimp only at h
    split at h
    · cases h
    · cases h
    · exact ordered_of_readScalar h
  | succ depth ih =>
    rw [readValue.eq_def] at h
    dsimp only at h
    split at h
    · obtain ⟨⟨items, rest'⟩, hitems, heq⟩ := Option.map_eq_some_iff.1 h
      cases heq
      exact .array (forall_of_readItems (fun _ _ _ hitem => ih hitem) hitems)
    · obtain ⟨⟨fields, rest'⟩, hfields, heq⟩ := Option.map_eq_some_iff.1 h
      cases heq
      refine ordered_sortFields (forall_of_readItems (fun _ field _ hfield => ?_) hfields)
      obtain ⟨text, hvalue⟩ := exists_of_readMember hfield
      exact ih hvalue
    · exact ordered_of_readScalar h

theorem ordered_of_ofText? {text : String} {v : Json} (h : ofText? text = some v) : v.Ordered := by
  unfold ofText? at h
  dsimp only at h
  split at h
  · next value rest hvalue =>
    split at h
    · cases h
      exact ordered_of_readValue hvalue
    · cases h
  · cases h

end RecordFlow.Json
