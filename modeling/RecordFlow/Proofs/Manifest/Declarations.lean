import RecordFlow.Manifest.Layout
import RecordFlow.Proofs.Text.Pieces

/-! # Cutting declarations off a block

A declaration reaches from the beginning of a text to the first closing
parenthesis at the start of a line, after the first opening one. Declarations are
cut off one after another; the rest that is left holds no whole declaration.
-/

namespace RecordFlow.Manifest

def Declaration.source (d : Declaration) : List Char := d.head ++ '(' :: d.body ++ [')']

namespace Declaration

theorem breakAt_opening {head : List Char} (h : '(' ∉ head) (inside : List Char) :
    Text.breakAt ['('] (head ++ '(' :: inside) = some (head, inside) := by
  have hoccurs : ¬ ['('] <:+: head ++ ['('].dropLast := by
    intro hoccurs
    exact h (by simpa using hoccurs.subset (List.mem_singleton_self '('))
  simpa using Text.breakAt_append (List.cons_ne_nil _ _) hoccurs inside

theorem not_mem_of_breakAt {text head inside : List Char}
    (h : Text.breakAt ['('] text = some (head, inside)) : '(' ∉ head := by
  induction text generalizing head with
  | nil => cases h
  | cons c text ih =>
    rw [Text.breakAt] at h
    split at h
    · cases h; exact List.not_mem_nil
    · next hafter =>
      obtain ⟨⟨before, rest⟩, hbreak, heq⟩ := Option.map_eq_some_iff.1 h
      cases heq
      rw [List.mem_cons, not_or]
      refine ⟨?_, ih hbreak⟩
      rintro rfl
      simp [Text.after?] at hafter

/-- A declaration is cut off whole, whatever stands in its body or after it. -/
theorem cut?_source {head body : List Char} (hhead : '(' ∉ head)
    (hbody : ¬ ['\n', ')'] <:+: body ++ ['\n']) (rest : List Char) :
    cut? (Declaration.source ⟨head, body ++ ['\n']⟩ ++ rest) = some (⟨head, body ++ ['\n']⟩, rest) := by
  have hbreak := Text.breakAt_append (List.cons_ne_nil _ _) hbody rest
  have htext : Declaration.source ⟨head, body ++ ['\n']⟩ ++ rest =
      head ++ '(' :: (body ++ ['\n', ')'] ++ rest) := by simp [source]
  rw [htext, cut?, breakAt_opening hhead]
  simp only
  rw [hbreak]

theorem eq_of_cut? {text rest : List Char} {d : Declaration} (h : cut? text = some (d, rest)) :
    text = d.source ++ rest ∧ '(' ∉ d.head := by
  rw [cut?] at h
  split at h
  · cases h
  next head inside hopening =>
  split at h
  · cases h
  next body rest' hclosing =>
  cases h
  refine ⟨?_, not_mem_of_breakAt hopening⟩
  rw [Text.eq_of_breakAt hopening, Text.eq_of_breakAt hclosing]
  simp [source]

theorem cut?_eq_none_iff {text : List Char} :
    cut? text = none ↔
      ∀ head inside, text = head ++ '(' :: inside → '(' ∉ head → ¬ ['\n', ')'] <:+: inside := by
  constructor
  · rintro h head inside rfl hhead
    rw [cut?, breakAt_opening hhead] at h
    split at h
    · next hbreak => cases hbreak
    next hbreak =>
    cases hbreak
    split at h
    · next hclosing => exact Text.breakAt_eq_none_iff.1 hclosing
    · cases h
  · intro h
    rw [cut?]
    split
    · rfl
    next head inside hopening =>
    have htext : text = head ++ '(' :: inside := by simpa using Text.eq_of_breakAt hopening
    rw [Text.breakAt_eq_none_iff.2 (h head inside htext (not_mem_of_breakAt hopening))]

end Declaration

theorem declarations_eq_of_none {text : List Char} (h : Declaration.cut? text = none) :
    declarations text = ([], text) := by
  rw [declarations]
  split
  · rfl
  · next h' => rw [h] at h'; cases h'

theorem declarations_eq_of_some {text rest : List Char} {d : Declaration}
    (h : Declaration.cut? text = some (d, rest)) :
    declarations text = (d :: (declarations rest).1, (declarations rest).2) := by
  rw [declarations]
  split
  · next h' => rw [h] at h'; cases h'
  · next h' => rw [h] at h'; cases h'; rfl

theorem declarations_source (text : List Char) :
    (declarations text).1.flatMap Declaration.source ++ (declarations text).2 = text := by
  fun_induction declarations text with
  | case1 => rfl
  | case2 text d rest h ds rest' hrest ih =>
    rw [hrest] at ih
    rw [List.flatMap_cons, List.append_assoc, ih]
    exact (Declaration.eq_of_cut? h).1.symm

theorem cut?_declarations (text : List Char) : Declaration.cut? (declarations text).2 = none := by
  fun_induction declarations text with
  | case1 _ h => exact h
  | case2 text d rest h ds rest' hrest ih => rwa [hrest] at ih

theorem isUnclosed_iff {text : List Char} : isUnclosed text ↔ '(' ∈ text ∧ ')' ∈ text := by
  simp [isUnclosed]

end RecordFlow.Manifest
