import Mathlib.Logic.OpClass
import RecordFlow.Pattern

/-! # Sources and flags of patterns

The flags of a pattern are distinct known letters, and a pattern is determined by
its source and flags. Of an engine it may be assumed that letters in front of an
expression turn on one flag each.
-/

namespace RecordFlow

theorem flagError?_eq_none_iff {seen flags : List Char} :
    flagError? seen flags = none ↔
      (∀ f ∈ flags, f ∈ patternFlags) ∧ flags.Nodup ∧ ∀ f ∈ flags, f ∉ seen := by
  induction flags generalizing seen with
  | nil => simp [flagError?]
  | cons flag flags ih =>
    simp only [flagError?]
    split
    · next h => simp [h]
    split
    · next _ h => simp [h]
    · next h1 h2 =>
      rw [ih]
      simp only [List.mem_cons, forall_eq_or_imp, not_or, List.nodup_cons]
      constructor
      · rintro ⟨hknown, hnodup, hseen⟩
        exact ⟨⟨by simpa using h1, hknown⟩, ⟨fun hf => (hseen flag hf).1 rfl, hnodup⟩, h2,
          fun f hf => (hseen f hf).2⟩
      · rintro ⟨⟨-, hknown⟩, ⟨hf, hnodup⟩, -, hseen⟩
        exact ⟨hknown, hnodup, fun f hmem => ⟨by rintro rfl; exact hf hmem, hseen f hmem⟩⟩

/-- How an expression is read. -/
structure Mode where
  ignoreCase : Bool := false
  multiLine : Bool := false
  dotNewline : Bool := false

def Mode.turnOn (mode : Mode) : Char → Mode
  | 'i' => { mode with ignoreCase := true }
  | 'm' => { mode with multiLine := true }
  | 's' => { mode with dotNewline := true }
  | _ => mode

instance : RightCommutative Mode.turnOn where
  right_comm mode a b := by
    unfold Mode.turnOn
    split <;> split <;> rfl

variable [Engine]

/-- Distinct letters in a group in front of an expression turn on their flags, one after another, and
the expression is read in the mode that they leave. -/
def Engine.ReadsFlags : Prop :=
  ∃ compileIn? : Mode → String → Option (String → Bool), ∀ letters source,
    letters ≠ [] → letters.Nodup → (∀ f ∈ letters, f ∈ matchingFlags) →
      compile? ("(?" ++ String.ofList letters ++ ")" ++ source) = compileIn? (letters.foldl Mode.turnOn {}) source

namespace Pattern

theorem flags_known (p : Pattern) : ∀ f ∈ p.flags.toList, f ∈ patternFlags :=
  (flagError?_eq_none_iff.mp p.flags_ok).1

theorem flags_nodup (p : Pattern) : p.flags.toList.Nodup :=
  (flagError?_eq_none_iff.mp p.flags_ok).2.1

theorem make_eq_ok_iff {source flags : String} {p : Pattern} :
    make source flags = .ok p ↔ p.source = source ∧ p.flags = flags := by
  constructor
  · intro h
    simp only [make] at h
    split at h
    · cases h
    split at h
    · cases h; exact ⟨rfl, rfl⟩
    · cases h
  · rintro ⟨rfl, rfl⟩
    simp only [make]
    split
    · next h => rw [p.flags_ok] at h; cases h
    · rw [dif_pos p.compiles]

end Pattern

end RecordFlow
