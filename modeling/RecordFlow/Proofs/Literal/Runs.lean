import RecordFlow.Proofs.Literal.Cursor

/-! # What the cursor reads

A run of the cursor that starts in front of the characters `rest` does what a reader does on `rest`: it has
the value of the reader and stops in front of what the reader leaves, or it has its fault at the offset of what
the reader left. In particular it never stops for another reason, so every loop ends and every
cut lies between two characters.
-/

namespace RecordFlow.Literal

variable {σ α β γ : Type} {text rest rest' piece : List Char} {offset start stop : Nat}

/-- At an offset of a text, `rest` lies ahead. -/
def Ahead (text : List Char) (offset : Nat) (rest : List Char) : Prop :=
  ∃ before, text = before ++ rest ∧ Text.octets before = offset

namespace Ahead

theorem zero (text : List Char) : Ahead text 0 text := ⟨[], rfl, rfl⟩

theorem length_le (h : Ahead text offset rest) : rest.length ≤ text.length := by
  obtain ⟨before, rfl, -⟩ := h
  simp

theorem add (h : Ahead text offset (piece ++ rest)) : Ahead text (offset + Text.octets piece) rest := by
  obtain ⟨before, rfl, rfl⟩ := h
  exact ⟨before ++ piece, by simp, by simp⟩

theorem cons {c : Char} (h : Ahead text offset (c :: rest)) : Ahead text (offset + c.utf8Size) rest := by
  obtain ⟨before, rfl, rfl⟩ := h
  exact ⟨before ++ [c], by simp, by simp [Text.octets]⟩

theorem span (h : Ahead text offset rest) (p : Char → Bool) :
    Ahead text offset (rest.takeWhile p ++ rest.dropWhile p) := by
  rwa [List.takeWhile_append_dropWhile]

theorem slice? (hstart : Ahead text start (piece ++ rest)) (hstop : Ahead text stop rest) :
    Text.slice? start stop text = some piece := by
  obtain ⟨before, rfl, rfl⟩ := hstart
  obtain ⟨before', heq, rfl⟩ := hstop
  obtain rfl : before ++ piece = before' := List.append_cancel_right (by simpa using heq)
  exact Text.slice?_eq_some_iff.mpr ⟨before, rest, by simp, rfl, rfl⟩

theorem eq_sub (h : Ahead text offset rest) : offset = Text.octets text - Text.octets rest := by
  obtain ⟨before, rfl, rfl⟩ := h
  simp

theorem unique (h : Ahead text start rest) (h' : Ahead text stop rest) : start = stop := by
  rw [h.eq_sub, h'.eq_sub]

end Ahead

inductive Matches (text : List Char) : Except Stop (α × Nat) → Reading α → Prop where
  | ok {a : α} {offset : Nat} {rest : List Char} : Ahead text offset rest →
      Matches text (.ok (a, offset)) (.ok (a, rest))
  | error {fault : Fault} {offset : Nat} {rest : List Char} : Ahead text offset rest →
      Matches text (.error (.fault ⟨fault, offset⟩)) (.error ⟨fault, rest⟩)

/-- From every offset in front of `rest`, a run matches a reading. -/
def Runs (text : List Char) (m : Cursor α) (rest : List Char) (reading : Reading α) : Prop :=
  ∀ offset, Ahead text offset rest → Matches text (m text offset) reading

namespace Runs

variable {m : Cursor α} {f : α → Cursor β} {a : α} {reading : Reading α} {following : Reading β} {e : Failure}
  {c : Char}

theorem pure (a : α) : Runs text (Pure.pure a) rest (.ok (a, rest)) := fun _ h => .ok h

theorem fail (fault : Fault) : Runs text (Cursor.fail fault : Cursor α) rest (.error ⟨fault, rest⟩) :=
  fun _ h => .error h

theorem bind (hm : Runs text m rest (.ok (a, rest'))) (hf : Runs text (f a) rest' following) :
    Runs text (m >>= f) rest following := by
  intro offset h
  have hfirst := hm offset h
  change Matches text (Except.bind (m text offset) fun p => f p.1 text p.2) following
  generalize m text offset = outcome at hfirst ⊢
  cases hfirst with
  | ok h' => exact hf _ h'

theorem bind_error (hm : Runs text m rest (.error e)) : Runs text (m >>= f) rest (.error e) := by
  intro offset h
  have hfirst := hm offset h
  change Matches text (Except.bind (m text offset) fun p => f p.1 text p.2) _
  generalize m text offset = outcome at hfirst ⊢
  cases hfirst with
  | error h' => exact .error h'

theorem map (hm : Runs text m rest reading) (g : α → β) :
    Runs text (do return g (← m)) rest (reading.map fun p => (g p.1, p.2)) := by
  cases reading with
  | error e => exact hm.bind_error
  | ok p => exact hm.bind (.pure _)

theorem ite_pos {p : Prop} [Decidable p] {m' : Cursor α} (hp : p) (h : Runs text m rest reading) :
    Runs text (if p then m else m') rest reading := by rwa [if_pos hp]

theorem ite_neg {p : Prop} [Decidable p] {m' : Cursor α} (hp : ¬ p) (h : Runs text m' rest reading) :
    Runs text (if p then m else m') rest reading := by rwa [if_neg hp]

theorem ite {p : Prop} [Decidable p] {m' : Cursor α} {reading' : Reading α} (hpos : p → Runs text m rest reading)
    (hneg : ¬ p → Runs text m' rest reading') :
    Runs text (if p then m else m') rest (if p then reading else reading') := by
  split
  · next hp => exact hpos hp
  · next hp => exact hneg hp

theorem get_bind {f : Nat → Cursor β}
    (hf : ∀ start, Ahead text start rest → Runs text (f start) rest following) :
    Runs text (get >>= f) rest following :=
  fun offset h => hf offset h offset h

theorem set (h : Ahead text start rest') : Runs text (MonadState.set start) rest (.ok ((), rest')) := fun _ _ => .ok h

theorem slice (hstart : Ahead text start (piece ++ rest')) (hstop : Ahead text stop rest') :
    Runs text (Cursor.slice start stop) rest (.ok (piece, rest)) := by
  intro offset h
  have hrun : Cursor.slice start stop text offset = .ok (piece, offset) := by
    change Cursor.ofCut (Text.slice? start stop text) text offset = _
    rw [hstart.slice? hstop]
    rfl
  rw [hrun]
  exact .ok h

theorem since (hstart : Ahead text start (piece ++ rest)) : Runs text (Cursor.since start) rest (.ok (piece, rest)) :=
  get_bind fun _ hstop => slice hstart hstop

theorem ahead : Runs text Cursor.ahead rest (.ok (rest, rest)) := by
  refine get_bind fun start hstart => ?_
  have hend : Ahead text (Text.octets text) [] := ⟨text, by simp, rfl⟩
  exact slice (by rwa [List.append_nil]) hend

theorem peek : Runs text Cursor.peek rest (.ok (rest.head?, rest)) := ahead.bind (.pure _)

theorem peekSecond : Runs text Cursor.peekSecond rest (.ok (rest.tail.head?, rest)) := ahead.bind (.pure _)

theorem peek_two {f : Option Char → Option Char → Cursor β}
    (hf : Runs text (f rest.head? rest.tail.head?) rest following) :
    Runs text (do let first ← Cursor.peek; let second ← Cursor.peekSecond; f first second) rest following :=
  peek.bind (peekSecond.bind hf)

theorem advance {count : Nat} (piece : List Char) (h : Text.octets piece = count) :
    Runs text (Cursor.advance count) (piece ++ rest) (.ok ((), rest)) := by
  subst h
  exact get_bind fun start hstart => (slice hstart hstart.add).bind (set hstart.add)

theorem bump : Runs text Cursor.bump (c :: rest) (.ok (some c, rest)) :=
  peek.bind <| (advance [c] rfl).bind (.pure _)

theorem bump_nil : Runs text Cursor.bump [] (.ok (none, [])) := peek.bind (.pure _)

theorem expect (wanted : Char) {x : Except Failure (List Char)} (h : Literal.expect wanted rest = x) :
    Runs text (Cursor.expect wanted) rest (x.map (Prod.mk ())) := by
  subst h
  fun_cases Literal.expect wanted rest with
  | case1 => exact bump_nil.bind (.fail _)
  | case2 rest => exact bump.bind (.ite_pos rfl (.pure ()))
  | case3 c rest hc => exact bump.bind (.ite_neg hc (.fail _))

end Runs

/-- A loop in front of `rest` that has more turns than there are characters left matches a reading. -/
def Loops (text : List Char) (turn : σ → Cursor (Turn σ α)) (state : σ) (rest : List Char)
    (reading : Reading α) : Prop :=
  ∀ turns, rest.length < turns → Runs text (Cursor.loopFor turn turns state) rest reading

namespace Loops

variable {turn : σ → Cursor (Turn σ α)} {state state' : σ} {a : α} {reading : Reading α} {e : Failure}

theorem of_succ (h : ∀ turns, rest.length ≤ turns → Runs text (Cursor.loopFor turn (turns + 1) state) rest reading) :
    Loops text turn state rest reading := by
  intro turns hturns
  cases turns with
  | zero => exact absurd hturns (Nat.not_lt_zero _)
  | succ turns => exact h turns (Nat.le_of_lt_succ hturns)

theorem next (hturn : Runs text (turn state) rest (.ok (.next state', rest'))) (hlength : rest'.length < rest.length)
    (hloop : Loops text turn state' rest' reading) : Loops text turn state rest reading :=
  of_succ fun turns hturns => hturn.bind (hloop turns (Nat.lt_of_lt_of_le hlength hturns))

theorem done (hturn : Runs text (turn state) rest (.ok (.done a, rest'))) :
    Loops text turn state rest (.ok (a, rest')) :=
  of_succ fun _ _ => hturn.bind (.pure a)

theorem error (hturn : Runs text (turn state) rest (.error e)) : Loops text turn state rest (.error e) :=
  of_succ fun _ _ => hturn.bind_error

/-- A loop has enough turns for every text. -/
theorem runs (hloop : Loops text turn state rest reading) : Runs text (Cursor.loop turn state) rest reading :=
  fun offset h => hloop _ (Nat.lt_succ_of_le h.length_le) offset h

end Loops

theorem runs_bumpWhile (p : Char → Bool) :
    Runs text (Cursor.bumpWhile p) rest (.ok ((rest.takeWhile p).length, rest.dropWhile p)) := by
  suffices hloop : ∀ count, Loops text (Cursor.whileTurn p) count rest
      (.ok (count + (rest.takeWhile p).length, rest.dropWhile p)) by
    have hrun := (hloop 0).runs
    rwa [Nat.zero_add] at hrun
  induction rest with
  | nil => exact fun count => .done (Runs.peek.bind (.pure _))
  | cons c rest ih =>
    intro count
    by_cases hc : p c
    · rw [List.takeWhile_cons_of_pos hc, List.dropWhile_cons_of_pos hc, List.length_cons, Nat.add_comm _ 1,
        ← Nat.add_assoc]
      exact .next (Runs.peek.bind (.ite_pos hc (Runs.bump.bind (.pure _)))) (by simp) (ih (count + 1))
    · rw [List.takeWhile_cons_of_neg hc, List.dropWhile_cons_of_neg hc]
      exact .done (Runs.peek.bind (.ite_neg hc (.pure _)))

theorem head?_ne_some {c : Char} (h : ∀ more, rest = c :: more → False) : rest.head? ≠ some c := by
  intro hhead
  obtain ⟨more, hmore⟩ := List.head?_eq_some_iff.mp hhead
  exact h more hmore

theorem map_value_map (g : β → γ) (f : α → β) (x : Reading α) :
    (x.map fun p => (f p.1, p.2)).map (fun p => (g p.1, p.2)) = x.map fun p => (g (f p.1), p.2) := by
  cases x <;> rfl

end RecordFlow.Literal
