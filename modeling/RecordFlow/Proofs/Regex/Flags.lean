import Mathlib.Data.List.Nodup
import Mathlib.Data.List.Perm.Basic
import RecordFlow.Proofs.Pattern
import RecordFlow.Proofs.Text.Offsets
import RecordFlow.Regex.Engine

/-! # Flags in front of an expression

The backtracking engine reads a group of flags as an atom that takes no characters and
changes the flags of what follows. Two groups with the same letters are of the same size
and leave the same flags, so what follows them compiles alike.
-/

namespace RecordFlow

namespace Mode

def isOn (mode : Mode) : Char → Bool
  | 'i' => mode.ignoreCase
  | 'm' => mode.multiLine
  | 's' => mode.dotNewline
  | _ => false

theorem isOn_turnOn (mode : Mode) {f : Char} (hf : f ∈ matchingFlags) (c : Char) :
    (mode.turnOn f).isOn c ↔ mode.isOn c ∨ c = f := by
  simp only [matchingFlags, List.mem_cons, List.not_mem_nil, or_false] at hf
  rcases hf with rfl | rfl | rfl <;> unfold isOn <;> split <;> simp_all [turnOn]

theorem isOn_foldl_turnOn (mode : Mode) {letters : List Char} (h : ∀ f ∈ letters, f ∈ matchingFlags) (c : Char) :
    (letters.foldl turnOn mode).isOn c ↔ mode.isOn c ∨ c ∈ letters := by
  induction letters generalizing mode with
  | nil => simp
  | cons f letters ih =>
    obtain ⟨hf, hletters⟩ := List.forall_mem_cons.1 h
    rw [List.foldl_cons, ih _ hletters, isOn_turnOn mode hf, List.mem_cons, or_assoc]

def letters (mode : Mode) : List Char := matchingFlags.filter mode.isOn

theorem perm_letters_foldl_turnOn {letters : List Char} (hnodup : letters.Nodup)
    (h : ∀ f ∈ letters, f ∈ matchingFlags) : letters.Perm (letters.foldl turnOn {}).letters := by
  have hplain (c : Char) : ¬ isOn {} c := by
    unfold isOn
    split <;> simp
  refine (List.perm_ext_iff_of_nodup hnodup (List.Nodup.filter _ (by decide))).2 fun c => ?_
  rw [List.mem_filter, isOn_foldl_turnOn {} h]
  exact ⟨fun hc => ⟨h c hc, .inr hc⟩, fun hc => hc.2.resolve_left (hplain c)⟩

end Mode

namespace Regex

variable {group : ExprReader} {scope : Scope} {mode : Mode}

def Flags.ofMode (mode : Mode) : Flags :=
  { ignoreCase := mode.ignoreCase, multiLine := mode.multiLine, dotNewline := mode.dotNewline }

theorem skip_eq (hspace : scope.flags.ignoreSpace = false) {c : Char} {text : List Char}
    (h : ∀ rest, c :: text ≠ '(' :: '?' :: '#' :: rest) : scope.skip (c :: text) = some (c :: text) := by
  rw [Scope.skip, hspace, skipFiller.eq_2 _ _ _ (fun rest hc ht => h rest (by rw [hc, ht]))]
  simp

theorem readFlags_eq {letters : List Char} (hletters : ∀ f ∈ letters, f ∈ matchingFlags) (mode : Mode)
    (seen fuel : Nat) (hseen : 0 < seen + letters.length) (hfuel : letters.length < fuel) (rest : List Char) :
    readFlags (.ofMode mode) seen false fuel (letters ++ ')' :: rest) =
      some (.ofMode (letters.foldl Mode.turnOn mode), ')' :: rest) := by
  induction letters generalizing mode seen fuel with
  | nil =>
    cases fuel with
    | zero => simp at hfuel
    | succ fuel =>
      have hseen' : seen ≠ 0 := by simp at hseen; omega
      simp [readFlags, skipFiller, Flags.ofMode, hseen']
  | cons f letters ih =>
    cases fuel with
    | zero => simp at hfuel
    | succ fuel =>
      obtain ⟨hf, hletters⟩ := List.forall_mem_cons.1 hletters
      have hfuel' : letters.length < fuel := by simpa using hfuel
      have hstep (text : List Char) : readFlags (.ofMode mode) seen false (fuel + 1) (f :: text) =
          readFlags (.ofMode (mode.turnOn f)) (seen + 1) false fuel text := by
        simp only [matchingFlags, List.mem_cons, List.not_mem_nil, or_false] at hf
        rcases hf with rfl | rfl | rfl <;> simp [readFlags, skipFiller, Flags.ofMode, Mode.turnOn]
      rw [List.cons_append, hstep, ih hletters _ _ _ (by omega) hfuel']
      rfl

/-- A group of flags takes no characters and turns its flags on. -/
theorem readAtom_flags (alternation : ExprReader) (rest : List Char) {letters : List Char} (hne : letters ≠ [])
    (hletters : ∀ f ∈ letters, f ∈ matchingFlags) (hmode : scope.flags = .ofMode mode) :
    readAtom (readGroup alternation) scope ('(' :: '?' :: letters ++ ')' :: rest) =
      some ⟨.empty, { scope with flags := .ofMode (letters.foldl Mode.turnOn mode) }, rest⟩ := by
  have hread := readFlags_eq hletters mode 0
    ((letters ++ ')' :: rest).length + 1) (by have := List.length_pos_iff.mpr hne; omega)
    (by simp only [List.length_append, List.length_cons]; omega) rest
  have hspace : scope.flags.ignoreSpace = false := by rw [hmode]; rfl
  obtain ⟨f, letters, rfl⟩ := List.exists_cons_of_ne_nil hne
  have hf := hletters f (by simp)
  simp only [matchingFlags, List.mem_cons, List.not_mem_nil, or_false] at hf
  have hskip : scope.skip ('(' :: '?' :: (f :: letters) ++ ')' :: rest) =
      some ('(' :: '?' :: (f :: letters) ++ ')' :: rest) := by
    refine skip_eq hspace fun rest h => ?_
    simp at h
    rcases hf with rfl | rfl | rfl <;> simp at h
  have hinner : scope.skip ('?' :: (f :: letters) ++ ')' :: rest) =
      some ('?' :: (f :: letters) ++ ')' :: rest) := skip_eq hspace fun rest h => by simp at h
  have hstart : readGroupStart ('?' :: (f :: letters) ++ ')' :: rest) =
      some (.flags, (f :: letters) ++ ')' :: rest) := by
    rcases hf with rfl | rfl | rfl <;> rfl
  rw [readAtom, hskip]
  simp only [Option.bind_eq_bind, Option.bind_some, List.cons_append] at *
  rw [readGroup, hinner]
  simp only [Option.bind_eq_bind, Option.bind_some, hstart, hmode, hread]
  rfl

theorem readAlternation_congr {text text' : List Char} (hne : text ≠ []) (hlength : text.length = text'.length)
    (h : readAtom group scope text = readAtom group scope text') :
    readAlternation group scope text = readAlternation group scope text' := by
  have hpiece : readPiece group scope text = readPiece group scope text' := by rw [readPiece, readPiece, h]
  have hne' : text' ≠ [] := by
    rw [← List.length_pos_iff] at hne ⊢
    omega
  have hpieces : readPieces group (text.length + 1) scope text =
      readPieces group (text'.length + 1) scope text' := by
    rw [readPieces, readPieces, if_neg (by simpa using hne), if_neg (by simpa using hne'), hpiece, hlength]
  have hbranch : readBranch group scope text = readBranch group scope text' := by
    rw [readBranch, readBranch, hpieces]
  rw [readAlternation, readAlternation, hbranch]

theorem compile?_congr {text text' : String} (hsize : text.utf8ByteSize = text'.utf8ByteSize)
    (h : ∀ scope : Scope, scope.flags = {} →
      readNested maxGroupDepth scope text.toList = readNested maxGroupDepth scope text'.toList) :
    compile? text = compile? text' := by
  have hread : Expr.ofText? text = Expr.ofText? text' := by
    simp only [Expr.ofText?, hsize]
    rw [h _ rfl]
  rw [compile?, compile?, hread]

theorem toList_inline_append (letters : List Char) (source : String) :
    ("(?" ++ String.ofList letters ++ ")" ++ source).toList = '(' :: '?' :: letters ++ ')' :: source.toList := by
  simp

theorem compile?_inline_of_perm {letters letters' : List Char} (h : letters.Perm letters') (hne : letters ≠ [])
    (hletters : ∀ f ∈ letters, f ∈ matchingFlags) (source : String) :
    compile? ("(?" ++ String.ofList letters ++ ")" ++ source) =
      compile? ("(?" ++ String.ofList letters' ++ ")" ++ source) := by
  have hne' : letters' ≠ [] := fun hnil => hne (List.perm_nil.1 (hnil ▸ h))
  have hletters' : ∀ f ∈ letters', f ∈ matchingFlags := fun f hf => hletters f (h.mem_iff.2 hf)
  refine compile?_congr ?_ fun scope hscope => ?_
  · simp only [String.utf8ByteSize_append, Text.utf8ByteSize_ofList, Text.octets_of_perm h]
  · have hmode : scope.flags = .ofMode {} := hscope
    rw [toList_inline_append, toList_inline_append]
    refine readAlternation_congr (by simp) (by simp [h.length_eq]) ?_
    rw [readAtom_flags _ _ hne hletters hmode, readAtom_flags _ _ hne' hletters' hmode, h.foldl_eq]

theorem engine_readsFlags : Engine.ReadsFlags := by
  refine ⟨fun mode source => Engine.compile? ("(?" ++ String.ofList mode.letters ++ ")" ++ source), ?_⟩
  intro letters source hne hnodup hletters
  have hperm := Mode.perm_letters_foldl_turnOn hnodup hletters
  exact congrArg (Option.map isMatch) (compile?_inline_of_perm hperm hne hletters source)

end Regex

end RecordFlow
