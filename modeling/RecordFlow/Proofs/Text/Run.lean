import Mathlib.Data.List.TakeDrop
import Mathlib.Data.List.TakeWhile
import RecordFlow.Text.Basic

/-! # Runs of characters

A reader of a run takes the characters that satisfy a test, up to the first one
that does not. A text splits into its run and a rest in exactly one way.
-/

namespace RecordFlow.Text

variable {α : Type}

theorem takeWhile_dropWhile_iff {p : α → Bool} {text run rest : List α} :
    text.takeWhile p = run ∧ text.dropWhile p = rest ↔
      text = run ++ rest ∧ (∀ c ∈ run, p c) ∧ ∀ c ∈ rest.head?, ¬ p c := by
  constructor
  · rintro ⟨rfl, rfl⟩
    refine ⟨List.takeWhile_append_dropWhile.symm, fun c hc => List.mem_takeWhile_imp hc, ?_⟩
    intro c hc
    have h := List.head?_dropWhile_not p text
    rw [Option.mem_def.mp hc] at h
    simpa using h
  · rintro ⟨rfl, hrun, hrest⟩
    rw [List.takeWhile_append_of_pos hrun, List.dropWhile_append_of_pos hrun]
    cases rest with
    | nil => simp
    | cons c rest => simp [hrest c rfl]

theorem takeWhile_run {p : α → Bool} {run rest : List α} (hrun : ∀ c ∈ run, p c)
    (hrest : ∀ c ∈ rest.head?, ¬ p c) : (run ++ rest).takeWhile p = run :=
  (takeWhile_dropWhile_iff.mpr ⟨rfl, hrun, hrest⟩).1

theorem dropWhile_run {p : α → Bool} {run rest : List α} (hrun : ∀ c ∈ run, p c)
    (hrest : ∀ c ∈ rest.head?, ¬ p c) : (run ++ rest).dropWhile p = rest :=
  (takeWhile_dropWhile_iff.mpr ⟨rfl, hrun, hrest⟩).2

theorem span_run {p : α → Bool} {run rest : List α} (hrun : ∀ c ∈ run, p c)
    (hrest : ∀ c ∈ rest.head?, ¬ p c) : (run ++ rest).span p = (run, rest) := by
  rw [List.span_eq_takeWhile_dropWhile, takeWhile_run hrun hrest, dropWhile_run hrun hrest]

theorem mem_head?_append {run rest : List α} {c : α} (h : c ∈ (run ++ rest).head?) :
    c ∈ run.head? ∨ run = [] ∧ c ∈ rest.head? := by
  cases run with
  | nil => exact .inr ⟨rfl, h⟩
  | cons d run => exact .inl h

theorem head?_append_of_mem {run rest : List α} {c : α} (h : c ∈ run.head?) :
    (run ++ rest).head? = some c := by
  cases run with
  | nil => cases h
  | cons d run => exact h

end RecordFlow.Text
