import RecordFlow.Proofs.Json.Values

/-! # What written values are read as

A written value is read as a value of the same form, in which each number became the one
that its own text is read as. The value stays what it is if and only if its numbers do.
-/

namespace RecordFlow.Json

/-- The number that the written form of a number is read as. -/
def Number.reread? (number? : NumberText → Option Number) (n : Number) : Option Number :=
  (readNumberText (writeNumber n)).bind fun (t, _) => number? t

mutual

def reread? (number? : NumberText → Option Number) : Json → Option Json
  | number n => (n.reread? number?).map number
  | array items => (rereadItems? number? items).map array
  | object fields => (rereadFields? number? fields).map object
  | v => some v

def rereadItems? (number? : NumberText → Option Number) : List Json → Option (List Json)
  | [] => some []
  | item :: items => do return (← item.reread? number?) :: (← rereadItems? number? items)

def rereadFields? (number? : NumberText → Option Number) : List (String × Json) → Option (List (String × Json))
  | [] => some []
  | (key, value) :: fields => do return (key, ← value.reread? number?) :: (← rereadFields? number? fields)

end

mutual

def numbers : Json → List Number
  | number n => [n]
  | array items => numbersOfItems items
  | object fields => numbersOfFields fields
  | _ => []

def numbersOfItems : List Json → List Number
  | [] => []
  | item :: items => item.numbers ++ numbersOfItems items

def numbersOfFields : List (String × Json) → List Number
  | [] => []
  | (_, value) :: fields => value.numbers ++ numbersOfFields fields

end

variable {number? : NumberText → Option Number} {n : Number}

theorem rereadItems?_eq (items : List Json) : rereadItems? number? items = items.mapM (reread? number?) := by
  induction items with
  | nil => rfl
  | cons item items ih => rw [rereadItems?, List.mapM_cons, ih]

theorem rereadFields?_eq (fields : List (String × Json)) :
    rereadFields? number? fields = fields.mapM fun field => (field.2.reread? number?).map (field.1, ·) := by
  induction fields with
  | nil => rfl
  | cons field fields ih =>
    rw [rereadFields?, List.mapM_cons, ih]
    cases field.2.reread? number? <;> rfl

theorem mem_numbersOfItems_iff {items : List Json} : n ∈ numbersOfItems items ↔ ∃ item ∈ items, n ∈ item.numbers := by
  induction items with
  | nil => simp [numbersOfItems]
  | cons item items ih => simp [numbersOfItems, ih]

theorem mem_numbersOfFields_iff {fields : List (String × Json)} :
    n ∈ numbersOfFields fields ↔ ∃ field ∈ fields, n ∈ field.2.numbers := by
  induction fields with
  | nil => simp [numbersOfFields]
  | cons field fields ih => simp [numbersOfFields, ih]

theorem mapM_eq_self_iff {α : Type} {f : α → Option α} {xs : List α} :
    xs.mapM f = some xs ↔ ∀ x ∈ xs, f x = some x := by
  induction xs with
  | nil => simp
  | cons x xs ih =>
    rw [List.mapM_cons, List.forall_mem_cons, ← ih]
    cases f x <;> cases xs.mapM f <;> simp

theorem reread?_eq_self_iff {v : Json} :
    v.reread? number? = some v ↔ ∀ n ∈ v.numbers, n.reread? number? = some n := by
  induction v using Json.induction with
  | null | bool | string => simp [reread?, numbers]
  | number n => simp [reread?, numbers]
  | array items ih =>
    have hitems : (array items).reread? number? = some (array items) ↔ items.mapM (reread? number?) = some items := by
      simp [reread?, rereadItems?_eq]
    rw [hitems, mapM_eq_self_iff, numbers]
    simp only [mem_numbersOfItems_iff]
    exact ⟨fun h n ⟨item, hitem, hn⟩ => (ih item hitem).1 (h item hitem) n hn,
      fun h item hitem => (ih item hitem).2 fun n hn => h n ⟨item, hitem, hn⟩⟩
  | object fields ih =>
    have hfields : (object fields).reread? number? = some (object fields) ↔
        ∀ field ∈ fields, field.2.reread? number? = some field.2 := by
      simp [reread?, rereadFields?_eq, mapM_eq_self_iff, Prod.ext_iff]
    rw [hfields, numbers]
    simp only [mem_numbersOfFields_iff]
    exact ⟨fun h n ⟨field, hfield, hn⟩ => (ih field hfield).1 (h field hfield) n hn,
      fun h field hfield => (ih field hfield).2 fun n hn => h n ⟨field, hfield, hn⟩⟩

end RecordFlow.Json
