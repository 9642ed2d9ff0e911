import RecordFlow.Proofs.Literal.Continuation
import RecordFlow.Proofs.Manifest.Refusal
import RecordFlow.Regex.Engine

/-! # Bodies of declarations

The body of a declaration ends with a newline and is read in braces. No string, pattern
or comment goes on to the brace behind the body, so it is that brace that closes the
object. An object that is closed within the body leaves the last brace over, whatever
stands between, and the declaration is refused.
-/

namespace RecordFlow.Manifest.Declaration

open Literal Literal.Grammar

section

def EndsLine (d : Declaration) : Prop := d.body.getLast? = some '\n'

theorem endsLine_of_mem_declarations (block : List Char) : ∀ d ∈ (declarations block).1, d.EndsLine := by
  fun_induction declarations block with
  | case1 => simp
  | case2 block d rest hcut ds rest' hrest ih =>
    rw [hrest] at ih
    refine List.forall_mem_cons.2 ⟨?_, ih⟩
    rw [cut?] at hcut
    split at hcut
    · cases hcut
    split at hcut
    · cases hcut
    · cases hcut
      exact List.getLast?_concat

variable [Engine]

/-- The braces around a body are the braces of one object. -/
structure Enclosed (d : Declaration) : Prop where

  /-- If an object ends within the body, the declaration is refused. -/
  refused : ∀ q, q <+: d.body → ∀ p, Parameters.ofText (String.ofList ('\x7b' :: q)) = .ok p →
    ∃ fault, d.parameters = .error (.declarationSyntax d.literal (.literal fault))

  /-- What is read are members, blanks and comments up to the brace behind the body. -/
  read_iff : ∀ p, d.parameters = .ok p ↔
    ∃ members, MembersAt OnOneLine (d.body ++ ['\x7d']) [] members ∧ Dict.ofList members = p

  /-- No brace before the one behind the body closes what is read. -/
  last : ∀ p, d.parameters = .ok p →
    ∀ rest members, MembersAt OnOneLine (d.body ++ ['\x7d']) rest members → rest = []

theorem ofText_brace_eq_ok_iff {inside : List Char} {p : Parameters} :
    Parameters.ofText (String.ofList ('\x7b' :: inside)) = .ok p ↔
      ∃ members rest, MembersAt OnOneLine inside rest members ∧ Trivia rest [] ∧ Dict.ofList members = p := by
  rw [Parameters.ofText_eq_ok_iff_readText]
  refine exists_congr fun members => ?_
  rw [String.toList_ofList, readText_eq_ok_iff, sentence_brace_iff]
  simp only [← exists_and_right, and_assoc]

variable {d : Declaration} {rest : List Char} {members : List (String × Literal)} {p : Parameters}

theorem parameters_eq_ok_iff : d.parameters = .ok p ↔ Parameters.ofText d.literal = .ok p := by
  rw [parameters, ← literal, Parameters.read]
  cases Parameters.ofText d.literal <;> simp [Except.mapError]

theorem exists_fault (h : ∀ p, d.parameters ≠ .ok p) :
    ∃ fault, d.parameters = .error (.declarationSyntax d.literal (.literal fault)) := by
  rw [parameters, ← literal, Parameters.read] at h ⊢
  cases hread : Parameters.ofText d.literal with
  | error fault => exact ⟨fault, rfl⟩
  | ok p => exact absurd (by rw [hread]; rfl) (h p)

/-- Nothing follows an object that only blanks and comments may follow. -/
theorem EndsLine.eq_nil_of_trivia (h : d.EndsLine)
    (hmembers : MembersAt OnOneLine (d.body ++ ['\x7d']) rest members) (hend : Trivia rest []) :
    rest = [] := by
  by_contra hne
  obtain ⟨front, hfront⟩ := List.getLast?_eq_some_iff.1 h
  have hbrace : EndsWithBrace (d.body ++ ['\x7d']) := ⟨'\n' :: front, by simp [hfront]⟩
  have hrest : rest <:+ d.body ++ ['\x7d'] := (List.suffix_cons _ _).trans hmembers.isSuffix
  exact (hbrace.of_suffix hrest hne).not_trivia hend

theorem EndsLine.parameters_eq_ok_iff (h : d.EndsLine) : d.parameters = .ok p ↔
    ∃ members, MembersAt OnOneLine (d.body ++ ['\x7d']) [] members ∧ Dict.ofList members = p := by
  rw [Declaration.parameters_eq_ok_iff, literal, List.cons_append, ofText_brace_eq_ok_iff]
  refine exists_congr fun members => ⟨?_, ?_⟩
  · rintro ⟨rest, hmembers, hend, hp⟩
    obtain rfl := h.eq_nil_of_trivia hmembers hend
    exact ⟨hmembers, hp⟩
  · rintro ⟨hmembers, hp⟩
    exact ⟨[], hmembers, .nil _, hp⟩

/-- Every body that is cut off a block ends a line, and in braces such a body is one object, closed by
the brace behind the body, or no object at all. -/
theorem enclosed : (∀ block, ∀ d ∈ (declarations block).1, d.EndsLine) ∧
    ∀ d : Declaration, d.EndsLine → d.Enclosed := by
  refine ⟨endsLine_of_mem_declarations, fun d hline => ⟨?_, fun p => hline.parameters_eq_ok_iff, ?_⟩⟩
  · rintro q ⟨more, hbody⟩ p hq
    obtain ⟨members, rest, hmembers, -, -⟩ := ofText_brace_eq_ok_iff.1 hq
    refine exists_fault fun p' hp' => ?_
    obtain ⟨members', hmembers', -⟩ := hline.parameters_eq_ok_iff.1 hp'
    have hlonger := hmembers.append (more ++ ['\x7d'])
    rw [← List.append_assoc, hbody] at hlonger
    exact absurd (hlonger.unique hmembers').2 (by simp)
  · intro p hp rest members hmembers
    obtain ⟨members', hmembers', -⟩ := hline.parameters_eq_ok_iff.1 hp
    exact (hmembers.unique hmembers').2

end

open scoped Regex

/-- The object that ends in the first body makes a refusal, the braces in the second one are a character
of a string and part of a comment. -/
theorem enclosed_two_bodies :
    let early : Declaration := ⟨"n".toList, "a: true \x7d // rest\n".toList⟩
    let late : Declaration := ⟨"n".toList, "a: '\x7d' // \x7d\n".toList⟩
    (∃ fault, early.parameters = .error (.declarationSyntax early.literal (.literal fault))) ∧
      ∃ members, MembersAt OnOneLine (late.body ++ ['\x7d']) [] members ∧
        ∀ rest members, MembersAt OnOneLine (late.body ++ ['\x7d']) rest members → rest = [] := by
  intro early late
  have hearly : early.EndsLine := by unfold EndsLine; decide
  have hlate : late.EndsLine := by unfold EndsLine; decide
  have hclosed : (Parameters.ofText (String.ofList ('\x7b' :: "a: true \x7d".toList))).isOk := by decide +kernel
  have hread : late.parameters.isOk := by decide +kernel
  constructor
  · cases hp : Parameters.ofText (String.ofList ('\x7b' :: "a: true \x7d".toList)) with
    | error e => rw [hp] at hclosed; cases hclosed
    | ok p => exact (enclosed.2 early hearly).refused _ ⟨" // rest\n".toList, by decide⟩ p hp
  · cases hp : late.parameters with
    | error e => rw [hp] at hread; cases hread
    | ok p =>
      obtain ⟨members, hmembers, -⟩ := ((enclosed.2 late hlate).read_iff p).1 hp
      exact ⟨members, hmembers, (enclosed.2 late hlate).last p hp⟩

end RecordFlow.Manifest.Declaration
