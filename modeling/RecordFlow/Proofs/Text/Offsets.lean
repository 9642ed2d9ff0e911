import RecordFlow.Text.Basic

/-! # Offsets in a text

An offset counts octets. Where a character is longer than one octet, not every offset lies
between two characters: cutting a text at one that does not gives nothing.
-/

namespace RecordFlow.Text

variable {text before rest piece : List Char} {start stop offset : Nat}

@[simp] theorem octets_append (before rest : List Char) : octets (before ++ rest) = octets before + octets rest := by
  induction before with
  | nil => simp [octets]
  | cons c before ih => simp only [List.cons_append, octets, ih, Nat.add_assoc]

@[simp] theorem octets_eq_zero_iff : octets text = 0 ↔ text = [] := by
  cases text with
  | nil => simp [octets]
  | cons c text => simp [octets, Nat.ne_of_gt c.utf8Size_pos]

theorem octets_of_perm (h : text.Perm rest) : octets text = octets rest := by
  induction h with
  | nil => rfl
  | cons c _ ih => rw [octets, octets, ih]
  | swap c d text => simp only [octets, Nat.add_left_comm]
  | trans _ _ ih ih' => exact ih.trans ih'

theorem utf8ByteSize_ofList (text : List Char) : (String.ofList text).utf8ByteSize = octets text := by
  induction text with
  | nil => rfl
  | cons c text ih =>
    rw [← List.singleton_append, String.ofList_append, String.utf8ByteSize_append, ih, ← String.singleton_eq_ofList,
      String.utf8ByteSize_singleton, octets_append]
    rfl

/-- The text before an offset and from it on, if the offset lies between two characters. -/
def cutAt? (offset : Nat) : List Char → Option (List Char × List Char)
  | [] => if offset = 0 then some ([], []) else none
  | c :: text =>
    if offset = 0 then some ([], c :: text)
    else if c.utf8Size ≤ offset then
      (cutAt? (offset - c.utf8Size) text).map fun (before, rest) => (c :: before, rest)
    else none

theorem cutAt?_append (before rest : List Char) :
    cutAt? (octets before) (before ++ rest) = some (before, rest) := by
  induction before with
  | nil => cases rest <;> simp [cutAt?, octets]
  | cons c before ih =>
    have hpos := c.utf8Size_pos
    simp only [List.cons_append, octets, cutAt?]
    rw [if_neg (by omega), if_pos (by omega), Nat.add_sub_cancel_left, ih]
    rfl

theorem cutAt?_eq_some_iff :
    cutAt? offset text = some (before, rest) ↔ text = before ++ rest ∧ octets before = offset := by
  constructor
  · intro h
    fun_induction cutAt? offset text generalizing before with
    | case1 => cases h; exact ⟨rfl, rfl⟩
    | case2 => cases h
    | case3 => cases h; exact ⟨rfl, rfl⟩
    | case4 offset c text _ hle ih =>
      obtain ⟨⟨before, rest⟩, hcut, heq⟩ := Option.map_eq_some_iff.mp h
      cases heq
      obtain ⟨rfl, hoctets⟩ := ih hcut
      exact ⟨rfl, by rw [octets, hoctets]; omega⟩
    | case5 => cases h
  · rintro ⟨rfl, rfl⟩
    exact cutAt?_append before rest

/-- The text between two offsets, if both lie between two characters and the first is not behind the second. -/
def slice? (start stop : Nat) (text : List Char) : Option (List Char) := do
  let (before, _) ← cutAt? stop text
  let (_, piece) ← cutAt? start before
  return piece

theorem slice?_eq_some_iff : slice? start stop text = some piece ↔
    ∃ before rest, text = before ++ piece ++ rest ∧ octets before = start ∧ octets (before ++ piece) = stop := by
  simp only [slice?, Option.bind_eq_bind, Option.bind_eq_some_iff, Option.pure_def, Option.some.injEq, Prod.exists,
    cutAt?_eq_some_iff]
  constructor
  · rintro ⟨_, rest, ⟨rfl, hstop⟩, before, _, ⟨rfl, hstart⟩, rfl⟩
    exact ⟨before, rest, rfl, hstart, hstop⟩
  · rintro ⟨before, rest, rfl, hstart, hstop⟩
    exact ⟨_, rest, ⟨rfl, hstop⟩, before, piece, ⟨rfl, hstart⟩, rfl⟩

end RecordFlow.Text
