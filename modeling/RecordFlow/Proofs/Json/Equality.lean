import RecordFlow.Proofs.Json.Compare

/-! # Equality of JSON values

Two values have the same structure if and only if they become the same value once their
zeros have lost their signs. Strict equality looks at two numbers through their nearest
floating point numbers, and at all other values through their structure. It is therefore
an equivalence, and equal values are alike in the total order.
-/

namespace RecordFlow

namespace Binary64

def plusZero : Binary64 → Binary64
  | nan => nan
  | signed s m => signed (s && decide (m.code ≠ 0)) m

theorem isFinite_plusZero (x : Binary64) : x.plusZero.isFinite = x.isFinite := by
  cases x <;> rfl

/-- Only the two zeros share a place in the numeric order. -/
theorem place_eq_place_iff {x y : Binary64} (hx : x ≠ nan) (hy : y ≠ nan) :
    x.place = y.place ↔ x.plusZero = y.plusZero := by
  cases x with
  | nan => exact absurd rfl hx
  | signed s a =>
    cases y with
    | nan => exact absurd rfl hy
    | signed t b =>
      obtain ⟨m, hm⟩ := a
      obtain ⟨n, hn⟩ := b
      cases s <;> cases t <;> simp [place, orderKey, plusZero] <;> omega

theorem equals_iff {x y : Binary64} (hx : x ≠ nan) (hy : y ≠ nan) :
    x.equals y ↔ x.plusZero = y.plusZero := by
  rw [equals, compare?_eq_some hx hy, ← place_eq_place_iff hx hy]
  simp

end Binary64

namespace Json

def Number.plusZero : Number → Number
  | .integer n h => .integer n h
  | .float x h => .float x.plusZero (x.isFinite_plusZero.trans h)

theorem ne_nan_of_isFinite {x : Binary64} (h : x.isFinite = true) : x ≠ .nan := by
  rintro rfl
  cases h

theorem Number.same_iff {x y : Number} : x.same y ↔ x.plusZero = y.plusZero := by
  cases x with
  | integer m hm => cases y <;> simp [same, plusZero]
  | float x hx =>
    cases y with
    | integer n hn => simp [same, plusZero]
    | float y hy => simp [same, plusZero, Binary64.equals_iff (ne_nan_of_isFinite hx) (ne_nan_of_isFinite hy)]

mutual

/-- The value with all its zeros without their signs. -/
def plusZeros : Json → Json
  | number x => number x.plusZero
  | array items => array (plusZerosOfItems items)
  | object fields => object (plusZerosOfFields fields)
  | value => value

def plusZerosOfItems : List Json → List Json
  | [] => []
  | item :: items => item.plusZeros :: plusZerosOfItems items

def plusZerosOfFields : List (String × Json) → List (String × Json)
  | [] => []
  | (key, value) :: fields => (key, value.plusZeros) :: plusZerosOfFields fields

end

mutual

theorem same_iff : ∀ {a b : Json}, a.same b ↔ a.plusZeros = b.plusZeros
  | number x, b => by cases b <;> simp [same, plusZeros, Number.same_iff]
  | array xs, b => by cases b <;> simp [same, plusZeros, sameItems_iff]
  | object xs, b => by cases b <;> simp [same, plusZeros, sameFields_iff]
  | null, b => by cases b <;> simp [same, plusZeros]
  | bool _, b => by cases b <;> simp [same, plusZeros]
  | string _, b => by cases b <;> simp [same, plusZeros]

theorem sameItems_iff : ∀ {xs ys : List Json}, sameItems xs ys ↔ plusZerosOfItems xs = plusZerosOfItems ys
  | [], ys => by cases ys <;> simp [sameItems, plusZerosOfItems]
  | x :: xs, ys => by cases ys <;> simp [sameItems, plusZerosOfItems, same_iff, sameItems_iff]

theorem sameFields_iff : ∀ {xs ys : List (String × Json)},
    sameFields xs ys ↔ plusZerosOfFields xs = plusZerosOfFields ys
  | [], ys => by cases ys <;> simp [sameFields, plusZerosOfFields]
  | (j, x) :: xs, ys => by
    cases ys <;> simp [sameFields, plusZerosOfFields, same_iff, sameFields_iff]

end

/-- What strict equality sees of a value: of a number the nearest floating point number only, and of any
other value its structure. -/
def essence : Json → Binary64 ⊕ Json
  | number x => .inl x.toBinary64.plusZero
  | value => .inr value.plusZeros

theorem strictEquals_iff {a b : Json} : a.strictEquals b ↔ a.essence = b.essence := by
  cases a with
  | number x =>
    cases b with
    | number y =>
      simp [strictEquals, essence, Binary64.equals_iff x.toBinary64_ne_nan y.toBinary64_ne_nan]
    | null | bool | string | array | object => simp [strictEquals, same, essence]
  | null | bool | string | array | object =>
    cases b with
    | number y => simp [strictEquals, same, essence]
    | null | bool | string | array | object => simp [strictEquals, essence, same_iff]

theorem equivalence_strictEquals : Equivalence fun a b : Json => a.strictEquals b = true where
  refl _ := strictEquals_iff.2 rfl
  symm h := strictEquals_iff.2 (strictEquals_iff.1 h).symm
  trans h h' := strictEquals_iff.2 ((strictEquals_iff.1 h).trans (strictEquals_iff.1 h'))

def Kind.isOrdered : Kind → Bool
  | .number | .string | .boolean => true
  | .null | .array | .object => false

theorem isSome_compareValues_iff {a b : Json} :
    (a.compareValues b).isSome ↔ a.kind = b.kind ∧ a.kind.isOrdered := by
  cases a with
  | number x =>
    cases b with
    | number y =>
      simp [compareValues, kind, Kind.isOrdered,
        Binary64.compare?_eq_some x.toBinary64_ne_nan y.toBinary64_ne_nan]
    | null | bool | string | array | object => simp [compareValues, kind]
  | string s => cases b <;> simp [compareValues, kind, Kind.isOrdered]
  | bool s => cases b <;> simp [compareValues, kind, Kind.isOrdered]
  | null | array | object => simp [compareValues, kind, Kind.isOrdered]

theorem compareValues_eq_iff {a b : Json} (h : (a.compareValues b).isSome) :
    a.compareValues b = some .eq ↔ a.strictEquals b := by
  cases a with
  | number x =>
    cases b with
    | number y => simp [compareValues, strictEquals, Binary64.equals]
    | null | bool | string | array | object => cases h
  | string s =>
    cases b with
    | string t => simp [compareValues, strictEquals, same]
    | null | bool | number | array | object => cases h
  | bool s =>
    cases b with
    | bool t => simp [compareValues, strictEquals, same]
    | null | string | number | array | object => cases h
  | null | array | object => cases h

theorem kind_eq_of_strictEquals {a b : Json} (h : a.strictEquals b) : a.kind = b.kind := by
  cases a <;> cases b <;> simp [strictEquals, same, kind] at h ⊢

theorem kindRank_eq_of_kind_eq {a b : Json} (h : a.kind = b.kind) : a.kindRank = b.kindRank := by
  cases a <;> cases b <;> simp [kind, kindRank] at h ⊢

/-- Values that do not compare are told apart by their ranks only. -/
theorem totalOrder_eq_of_strictEquals {a b : Json} (h : a.strictEquals b) : a.totalOrder b = .eq := by
  have hrank := kindRank_eq_of_kind_eq (kind_eq_of_strictEquals h)
  rw [totalOrder, Nat.compare_eq_eq.2 hrank]
  show (a.compareValues b).getD .eq = .eq
  cases hcompare : a.compareValues b with
  | none => rfl
  | some o =>
    have hsome : (a.compareValues b).isSome := by rw [hcompare]; rfl
    rw [(compareValues_eq_iff hsome).2 h] at hcompare
    cases hcompare
    rfl

end Json

end RecordFlow
