import RecordFlow.Proofs.Json.Equality
import RecordFlow.Proofs.Text.Pieces

/-! # Relations between JSON values

Two values of one ordered kind are related in exactly one way: the first one is below the
second one, both stand on one level, or the second one is below the first one. Values of
other kinds, or of two kinds, are not related at all. Strings include their pieces, and
arrays their items.
-/

namespace RecordFlow.Json

variable {a b : Json}

/-- A smaller number, an earlier string, or false before true. -/
inductive Below : Json → Json → Prop
  | number {x y : Number} (h : x.toBinary64.place < y.toBinary64.place) : Below (number x) (number y)
  | string {s t : String} (h : s < t) : Below (string s) (string t)
  | bool : Below (bool false) (bool true)

def Level (a b : Json) : Prop := a.kind.isOrdered ∧ a.strictEquals b

theorem compareValues_number (x y : Number) :
    (number x).compareValues (number y) = some (compare x.toBinary64.place y.toBinary64.place) :=
  Binary64.compare?_eq_some x.toBinary64_ne_nan y.toBinary64_ne_nan

theorem compareValues_swap (a b : Json) : b.compareValues a = (a.compareValues b).map Ordering.swap := by
  cases a with
  | number x =>
    cases b with
    | number y =>
      rw [compareValues_number, compareValues_number]
      exact congrArg some Std.OrientedCmp.eq_swap
    | null | bool | string | array | object => rfl
  | string s =>
    cases b with
    | string t => exact congrArg some Std.OrientedCmp.eq_swap
    | null | bool | number | array | object => rfl
  | bool p =>
    cases b with
    | bool q => exact congrArg some Std.OrientedCmp.eq_swap
    | null | number | string | array | object => rfl
  | null | array | object => cases b <;> rfl

theorem compareValues_eq_lt_iff : a.compareValues b = some .lt ↔ a.Below b := by
  constructor
  · intro h
    cases a with
    | number x =>
      cases b with
      | number y =>
        rw [compareValues_number, Option.some_inj] at h
        exact .number (Int.compare_eq_lt.1 h)
      | null | bool | string | array | object => cases h
    | string s =>
      cases b with
      | string t =>
        rw [compareValues, Option.some_inj] at h
        exact .string (compareOfLessAndEq_eq_lt.1 h)
      | null | bool | number | array | object => cases h
    | bool p =>
      cases b with
      | bool q =>
        cases p <;> cases q
        case false.true => exact .bool
        all_goals cases h
      | null | number | string | array | object => cases h
    | null | array | object => cases h
  · rintro (h | h | -)
    · rw [compareValues_number, Int.compare_eq_lt.2 h]
    · exact congrArg some (compareOfLessAndEq_eq_lt.2 h)
    · rfl

theorem compareValues_eq_gt_iff : a.compareValues b = some .gt ↔ b.Below a := by
  rw [← compareValues_eq_lt_iff, compareValues_swap a b]
  rcases a.compareValues b with - | (- | - | -) <;> decide

theorem compareValues_eq_eq_iff : a.compareValues b = some .eq ↔ a.Level b := by
  constructor
  · intro h
    have hsome : (a.compareValues b).isSome := by rw [h]; rfl
    exact ⟨(isSome_compareValues_iff.1 hsome).2, (compareValues_eq_iff hsome).1 h⟩
  · rintro ⟨hordered, hequal⟩
    exact (compareValues_eq_iff (isSome_compareValues_iff.2 ⟨kind_eq_of_strictEquals hequal, hordered⟩)).2 hequal

inductive Includes : Json → Json → Prop
  | piece {s t : String} (h : t.toList <:+: s.toList) : Includes (string s) (string t)
  | item {items : List Json} {item v : Json} (hmem : item ∈ items) (h : item.strictEquals v) :
      Includes (array items) v

theorem includes_iff : a.includes b ↔ a.Includes b := by
  constructor
  · intro h
    unfold includes at h
    split at h
    · next s t => exact .piece (Text.contains_iff.1 h)
    · next items v _ =>
      obtain ⟨item, hmem, h⟩ := List.any_eq_true.1 h
      exact .item hmem h
    · cases h
  · rintro (h | ⟨hmem, h⟩)
    · exact Text.contains_iff.2 h
    · exact List.any_eq_true.2 ⟨_, hmem, h⟩

end RecordFlow.Json
