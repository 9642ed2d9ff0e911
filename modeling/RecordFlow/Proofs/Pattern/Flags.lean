import Mathlib.Data.List.Perm.Basic
import RecordFlow.Proofs.Regex.Flags

/-! # What flags decide

Flags are checked from the first to the last, and the first one that is unknown or
stands there again is named. The written form of a pattern has its flags behind the
last slash, so it tells source and flags apart even if the source holds slashes. With
an engine in which each letter turns on its flag, what matches depends on the flags `i`,
`m` and `s` only, and not on their order.
-/

namespace RecordFlow

structure ProperFlags (flags : List Char) : Prop where
  known : ∀ f ∈ flags, f ∈ patternFlags
  nodup : flags.Nodup

/-- Why a flag may not stand behind others. -/
inductive RefusedBehind (before : List Char) (flag : Char) : PatternError → Prop
  | unknown (h : flag ∉ patternFlags) : RefusedBehind before flag (.unknownFlag flag)
  | duplicate (h : flag ∈ patternFlags) (hbefore : flag ∈ before) :
      RefusedBehind before flag (.duplicateFlag flag)

theorem flagError?_nil_eq_none_iff {flags : List Char} : flagError? [] flags = none ↔ ProperFlags flags := by
  rw [flagError?_eq_none_iff]
  simp only [List.not_mem_nil, not_false_eq_true, implies_true, and_true]
  exact ⟨fun h => ⟨h.1, h.2⟩, fun h => ⟨h.known, h.nodup⟩⟩

instance (flags : List Char) : Decidable (ProperFlags flags) := decidable_of_iff _ flagError?_nil_eq_none_iff

theorem flagError?_singleton_eq_some_iff {seen : List Char} {flag : Char} {e : PatternError} :
    flagError? seen [flag] = some e ↔ RefusedBehind seen flag e := by
  simp only [flagError?]
  constructor
  · intro h
    split at h
    · next hunknown =>
      cases h
      exact .unknown hunknown
    split at h
    · next hknown hseen =>
      cases h
      exact .duplicate (not_not.1 hknown) hseen
    · cases h
  · intro h
    cases h with
    | unknown h => rw [if_pos h]
    | duplicate h hbefore => rw [if_neg (not_not.2 h), if_pos hbefore]

theorem flagError?_cons (seen : List Char) (flag : Char) (flags : List Char) :
    flagError? seen (flag :: flags) = (flagError? seen [flag]).or (flagError? (flag :: seen) flags) := by
  simp only [flagError?]
  split
  · rfl
  split <;> rfl

theorem flagError?_eq_some_iff {seen flags : List Char} {e : PatternError} :
    flagError? seen flags = some e ↔ ∃ before flag after, flags = before ++ flag :: after ∧
      flagError? seen before = none ∧ RefusedBehind (before.reverse ++ seen) flag e := by
  induction flags generalizing seen with
  | nil => simp [flagError?]
  | cons c flags ih =>
    rw [flagError?_cons, Option.or_eq_some_iff, flagError?_singleton_eq_some_iff, ih]
    constructor
    · rintro (hrefused | ⟨hc, before, flag, after, rfl, hnone, hrefused⟩)
      · exact ⟨[], c, flags, rfl, rfl, hrefused⟩
      · refine ⟨c :: before, flag, after, rfl, ?_, by simpa using hrefused⟩
        rw [flagError?_cons, hc, Option.none_or, hnone]
    · rintro ⟨before, flag, after, heq, hnone, hrefused⟩
      cases before with
      | nil =>
        cases heq
        exact .inl hrefused
      | cons d before =>
        cases heq
        rw [flagError?_cons, Option.or_eq_none_iff] at hnone
        exact .inr ⟨hnone.1, before, flag, after, rfl, hnone.2, by simpa using hrefused⟩

theorem RefusedBehind.congr {before before' : List Char} {flag : Char} {e : PatternError}
    (h : RefusedBehind before flag e) (hmem : flag ∈ before → flag ∈ before') : RefusedBehind before' flag e := by
  cases h with
  | unknown h => exact .unknown h
  | duplicate h hbefore => exact .duplicate h (hmem hbefore)

theorem flagError?_nil_eq_some_iff {flags : List Char} {e : PatternError} :
    flagError? [] flags = some e ↔ ∃ before flag after, flags = before ++ flag :: after ∧
      ProperFlags before ∧ RefusedBehind before flag e := by
  simp only [flagError?_eq_some_iff, flagError?_nil_eq_none_iff, List.append_nil]
  refine exists_congr fun before => exists_congr fun flag => exists_congr fun after => ?_
  refine and_congr_right fun _ => and_congr_right fun _ => ⟨fun h => h.congr ?_, fun h => h.congr ?_⟩
  · exact List.mem_reverse.1
  · exact List.mem_reverse.2

theorem append_cons_inj_of_not_mem {α : Type} {c : α} {s s' f f' : List α} (hf : c ∉ f) (hf' : c ∉ f')
    (h : s ++ c :: f = s' ++ c :: f') : s = s' ∧ f = f' := by
  rcases List.append_eq_append_iff.1 h with ⟨between, rfl, heq⟩ | ⟨between, rfl, heq⟩
  · cases between with
    | nil => simpa using heq
    | cons d between =>
      cases heq
      exact absurd (by simp) hf
  · cases between with
    | nil => simpa using heq.symm
    | cons d between =>
      cases heq
      exact absurd (by simp) hf'

namespace Pattern

section

variable [Engine]

variable {source flags : String} {p q : Pattern}

theorem exists_make_iff : (∃ p, make source flags = .ok p) ↔
    ProperFlags flags.toList ∧ (Engine.compile? (flaggedSource source flags)).isSome := by
  simp only [make_eq_ok_iff, ← flagError?_nil_eq_none_iff]
  constructor
  · rintro ⟨p, rfl, rfl⟩
    exact ⟨p.flags_ok, p.compiles⟩
  · rintro ⟨hflags, hcompiles⟩
    exact ⟨⟨source, flags, hflags, hcompiles⟩, rfl, rfl⟩

theorem make_eq_error_iff {e : PatternError} : make source flags = .error e ↔
    (∃ before flag after, flags.toList = before ++ flag :: after ∧ ProperFlags before ∧
      RefusedBehind before flag e) ∨
    ProperFlags flags.toList ∧ (Engine.compile? (flaggedSource source flags)).isNone ∧
      e = .invalidExpression source := by
  rw [← flagError?_nil_eq_some_iff, ← flagError?_nil_eq_none_iff]
  simp only [make]
  split
  · next h => simp [h]
  · next h =>
    split
    · next hcompiles => simp [h, Option.isSome_iff_ne_none.1 hcompiles]
    · next hcompiles => simp [h, Option.not_isSome_iff_eq_none.1 hcompiles, eq_comm]

theorem eq_iff : p = q ↔ p.source = q.source ∧ p.flags = q.flags := by
  constructor
  · rintro rfl
    exact ⟨rfl, rfl⟩
  · cases p
    cases q
    rintro ⟨rfl, rfl⟩
    rfl

theorem slash_not_mem_flags (p : Pattern) : '/' ∉ p.flags.toList := fun h =>
  absurd (p.flags_known '/' h) (by decide)

theorem toList_toText (p : Pattern) : p.toText.toList = '/' :: p.source.toList ++ '/' :: p.flags.toList := by
  simp [toText]

theorem toText_inj : p.toText = q.toText ↔ p.source = q.source ∧ p.flags = q.flags := by
  constructor
  · intro h
    have hchars := congrArg String.toList h
    rw [toList_toText, toList_toText] at hchars
    have hparts := append_cons_inj_of_not_mem p.slash_not_mem_flags q.slash_not_mem_flags hchars
    simpa [String.toList_inj] using hparts
  · rintro ⟨hsource, hflags⟩
    rw [toText, toText, hsource, hflags]

/-- The group of flags that is compiled depends on the set of the flags that change what matches. -/
theorem compile?_eq (hengine : Engine.ReadsFlags) (hsource : p.source = q.source)
    (h : ∀ f ∈ matchingFlags, f ∈ p.flags.toList ↔ f ∈ q.flags.toList) :
    Engine.compile? (flaggedSource p.source p.flags) = Engine.compile? (flaggedSource q.source q.flags) := by
  obtain ⟨compileIn?, hcompile⟩ := hengine
  have hperm : (p.flags.toList.filter (· ∈ matchingFlags)).Perm (q.flags.toList.filter (· ∈ matchingFlags)) := by
    rw [List.perm_ext_iff_of_nodup (p.flags_nodup.filter _) (q.flags_nodup.filter _)]
    intro f
    simp only [List.mem_filter, decide_eq_true_eq]
    exact and_congr_left fun hf => h f hf
  rw [flaggedSource, flaggedSource, hsource]
  by_cases hne : p.flags.toList.filter (· ∈ matchingFlags) = []
  · rw [hne] at hperm
    simp only [hne, hperm.nil_eq.symm, List.isEmpty_nil, if_true]
  · have hne' : q.flags.toList.filter (· ∈ matchingFlags) ≠ [] := fun hnil =>
      hne (List.perm_nil.1 (hnil ▸ hperm))
    rw [if_neg (by simpa using hne), if_neg (by simpa using hne'),
      hcompile _ _ hne (p.flags_nodup.filter _) (by simp),
      hcompile _ _ hne' (q.flags_nodup.filter _) (by simp), hperm.foldl_eq]

/-- A source and flags make a pattern if and only if the flags are distinct and known and the engine accepts the
source with them; the first flag that is refused is named before the engine is asked. Patterns are the same if and
only if their written forms are. With an engine that reads a group of flags letter by letter, which texts a pattern
matches depends on its source and on which of the flags `i`, `m` and `s` it has, and on nothing else. -/
theorem source_and_flags :
    (∀ source flags,
      ((∃ p, make source flags = .ok p) ↔
        ProperFlags flags.toList ∧ (Engine.compile? (flaggedSource source flags)).isSome) ∧
      (∀ p, make source flags = .ok p ↔ p.source = source ∧ p.flags = flags) ∧
      ∀ e, make source flags = .error e ↔
        (∃ before flag after, flags.toList = before ++ flag :: after ∧ ProperFlags before ∧
          RefusedBehind before flag e) ∨
        ProperFlags flags.toList ∧ (Engine.compile? (flaggedSource source flags)).isNone ∧
          e = .invalidExpression source) ∧
    (∀ p q : Pattern, (p = q ↔ p.toText = q.toText) ∧
      (p.toText = q.toText ↔ p.source = q.source ∧ p.flags = q.flags)) ∧
    (Engine.ReadsFlags → ∀ p q : Pattern, p.source = q.source →
      (∀ f ∈ matchingFlags, f ∈ p.flags.toList ↔ f ∈ q.flags.toList) →
      ∀ text, p.isMatch text = q.isMatch text) := by
  refine ⟨fun source flags => ⟨exists_make_iff, fun p => make_eq_ok_iff, fun e => make_eq_error_iff⟩, ?_, ?_⟩
  · exact fun p q => ⟨eq_iff.trans toText_inj.symm, toText_inj⟩
  · intro hengine p q hsource hflags text
    have hcompile : (Engine.compile? (flaggedSource p.source p.flags)).get p.compiles =
        (Engine.compile? (flaggedSource q.source q.flags)).get q.compiles := by
      simp only [compile?_eq hengine hsource hflags]
    rw [isMatch, isMatch, hcompile]

end

open scoped Regex

/-- An unknown flag before a repeated one, a repeated one, and two patterns with a slash in their source and the
same two matching flags. -/
theorem source_and_flags_slash :
    make "a" "gxg" = .error (.unknownFlag 'x') ∧ make "a" "gig" = .error (.duplicateFlag 'g') ∧
    make "a(" "g" = .error (.invalidExpression "a(") ∧
    ∃ p q, make "a/." "gis" = .ok p ∧ make "a/." "sdi" = .ok q ∧ p ≠ q ∧ p.toText ≠ q.toText ∧
      ∀ text, p.isMatch text = q.isMatch text := by
  obtain ⟨hmake, htext, hmatch⟩ := source_and_flags
  have hproper : ProperFlags "gis".toList := by decide
  have hproper' : ProperFlags "sdi".toList := by decide
  have hcompiles : (Engine.compile? (flaggedSource "a/." "gis")).isSome := by
    have hsource : flaggedSource "a/." "gis" = String.ofList ['(', '?', 'i', 's', ')', 'a', '/', '.'] := by decide
    have hsize : (String.ofList ['(', '?', 'i', 's', ')', 'a', '/', '.']).utf8ByteSize = 8 := by decide
    rw [Regex.isSome_engine, hsource, Regex.compile?, Regex.Expr.ofText?, String.toList_ofList, hsize]
    cbv
  have hcompiles' : (Engine.compile? (flaggedSource "a/." "sdi")).isSome := by
    have hsource : flaggedSource "a/." "sdi" = String.ofList ['(', '?', 's', 'i', ')', 'a', '/', '.'] := by decide
    have hsize : (String.ofList ['(', '?', 's', 'i', ')', 'a', '/', '.']).utf8ByteSize = 8 := by decide
    rw [Regex.isSome_engine, hsource, Regex.compile?, Regex.Expr.ofText?, String.toList_ofList, hsize]
    cbv
  obtain ⟨p, hp⟩ := (hmake "a/." "gis").1.2 ⟨hproper, hcompiles⟩
  obtain ⟨q, hq⟩ := (hmake "a/." "sdi").1.2 ⟨hproper', hcompiles'⟩
  obtain ⟨hsource, hflags⟩ := ((hmake "a/." "gis").2.1 p).1 hp
  obtain ⟨hsource', hflags'⟩ := ((hmake "a/." "sdi").2.1 q).1 hq
  have hne : p ≠ q := by
    rintro rfl
    exact absurd (hflags.symm.trans hflags') (by decide)
  refine ⟨?_, ?_, ?_, p, q, hp, hq, hne, fun h => hne ((htext p q).1.2 h),
    hmatch Regex.engine_readsFlags p q ?_ ?_⟩
  · exact ((hmake "a" "gxg").2.2 _).2
      (.inl ⟨['g'], 'x', ['g'], rfl, by decide, .unknown (by decide)⟩)
  · exact ((hmake "a" "gig").2.2 _).2
      (.inl ⟨['g', 'i'], 'g', [], rfl, by decide, .duplicate (by decide) (by decide)⟩)
  · exact ((hmake "a(" "g").2.2 _).2 (.inr ⟨by decide, by decide +kernel, rfl⟩)
  · rw [hsource, hsource']
  · rw [hflags, hflags']
    simp [matchingFlags]

end Pattern

end RecordFlow
