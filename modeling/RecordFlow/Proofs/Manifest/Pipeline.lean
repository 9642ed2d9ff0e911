import RecordFlow.Proofs.Literal.Rendering
import RecordFlow.Proofs.Manifest.RoundTrip
import RecordFlow.Proofs.Text.Run
import RecordFlow.Regex.Engine

/-! # Pipelines and their texts

The entries of a pipeline are joined by arrows with a blank on both sides and
found again by splitting at arrows. A name may end with a dash or begin with a
bracket of an arrow: with a blank between them no other arrow comes about. An
entry that holds a word in brackets is no stage.
-/

namespace RecordFlow.Text

theorem join_eq_intercalate (separator : List Char) (texts : List (List Char)) :
    join separator texts = separator.intercalate texts := by
  induction texts with
  | nil => rfl
  | cons text texts ih =>
    cases texts with
    | nil => rw [join, List.intercalate_singleton]
    | cons next texts => rw [join_cons_cons, ih, List.intercalate_cons_cons]

theorem head?_of_splitAtPair {a b d : Char} {text part : List Char} {parts : List (List Char)}
    (h : splitAtPair a b (d :: text) = part :: parts) : ∀ c ∈ part.head?, c = d := by
  cases text with
  | nil =>
    cases h
    simp
  | cons e text =>
    rw [splitAtPair] at h
    split at h
    · cases h
      simp
    · split at h <;> cases h <;> simp

theorem not_pair_infix_of_mem_splitAtPair {a b : Char} (text : List Char) :
    ∀ part ∈ splitAtPair a b text, ¬ [a, b] <:+: part := by
  fun_induction splitAtPair a b text with
  | case1 => simp
  | case2 c => simpa using not_pair_infix_singleton
  | case3 c d text hpair ih => simpa using ih
  | case4 c d text hpair hnil => simpa using not_pair_infix_singleton
  | case5 c d text hpair part parts hparts ih =>
    obtain ⟨hpart, hrest⟩ := List.forall_mem_cons.1 (hparts ▸ ih)
    refine List.forall_mem_cons.2 ⟨?_, hrest⟩
    rw [List.infix_cons_iff, not_or]
    refine ⟨?_, hpart⟩
    -- the part goes on with the character that follows in the text, or ends
    rintro ⟨rest, heq⟩
    cases heq
    exact hpair ⟨rfl, (head?_of_splitAtPair hparts b rfl).symm⟩

end RecordFlow.Text

namespace RecordFlow.Manifest

section

/-- What a pipeline can have as an entry: nothing is trimmed from it, and it holds no arrow. -/
structure IsEntry (entry : String) : Prop where
  trimmed : Text.trim entry.toList = entry.toList
  no_arrow : ¬ ['-', '>'] <:+: entry.toList

theorem isEntry_of_mem_pipelineEntries {pipeline entry : String} (h : entry ∈ pipelineEntries pipeline) :
    IsEntry entry := by
  obtain ⟨part, hpart, rfl⟩ := List.mem_map.1 h
  have harrow := Text.not_pair_infix_of_mem_splitAtPair pipeline.toList part hpart
  constructor
  · rw [String.toList_ofList, Text.trim_trim]
  · rw [String.toList_ofList]
    exact fun htrim => harrow (htrim.trans (Text.isInfix_trim part))

/-- Joined entries are found again. -/
theorem pipelineEntries_intercalate {names : List String} (hne : names ≠ []) (h : ∀ n ∈ names, IsEntry n) :
    pipelineEntries (" -> ".intercalate names) = names := by
  have hentries : ∀ e ∈ names.map String.toList, Text.trim e = e ∧ ¬ ['-', '>'] <:+: e := by
    rw [List.forall_mem_map]
    exact fun n hn => ⟨(h n hn).trimmed, (h n hn).no_arrow⟩
  have htext : (" -> ".intercalate names).toList =
      Text.join ManifestText.separator (names.map String.toList) := by
    rw [String.toList_intercalate, Text.join_eq_intercalate]
    rfl
  calc pipelineEntries (" -> ".intercalate names)
    _ = pipelineEntries (String.ofList (Text.join ManifestText.separator (names.map String.toList))) := by
        rw [← htext, String.ofList_toList]
    _ = (names.map String.toList).map String.ofList := pipelineEntries_ofList_join (by simpa using hne) hentries
    _ = names := by simp

def IsWordChar (c : Char) : Prop :=
  'A' ≤ c ∧ c ≤ 'Z' ∨ 'a' ≤ c ∧ c ≤ 'z' ∨ '0' ≤ c ∧ c ≤ '9' ∨ c = '_'

def bracketed (word : List Char) : List Char := '[' :: word ++ [']']

/-- Somewhere in the entry there is a word in brackets. -/
def Marked (entry : String) : Prop :=
  ∃ word, word ≠ [] ∧ (∀ c ∈ word, IsWordChar c) ∧ bracketed word <:+: entry.toList

theorem isMarkerChar_iff {c : Char} : isMarkerChar c ↔ IsWordChar c := by
  have hupper : c.isUpper = decide ('A' ≤ c ∧ c ≤ 'Z') := rfl
  have hlower : c.isLower = (decide ('a' ≤ c) && decide (c ≤ 'z')) := rfl
  have halpha : c.isAlpha = (c.isUpper || c.isLower) := rfl
  have hdigit : isDecimalDigit c ↔ '0' ≤ c ∧ c ≤ '9' := by simp [isDecimalDigit, decimalValue?]
  simp only [isMarkerChar, IsWordChar, halpha, hupper, hlower, Bool.or_eq_true, Bool.and_eq_true,
    decide_eq_true_eq, hdigit, beq_iff_eq]
  tauto

theorem beginsWithMarker_iff {text : List Char} :
    beginsWithMarker text ↔ ∃ word, word ≠ [] ∧ (∀ c ∈ word, isMarkerChar c) ∧ bracketed word <+: text := by
  constructor
  · intro h
    cases text with
    | nil => cases h
    | cons c text =>
      simp only [beginsWithMarker] at h
      split at h
      · next text heq =>
        cases heq
        simp only [Bool.and_eq_true, Bool.not_eq_true', List.isEmpty_eq_false_iff, Text.beginsWith_iff] at h
        obtain ⟨hword, rest, hrest⟩ := h
        refine ⟨_, hword, fun c hc => List.mem_takeWhile_imp hc, rest, ?_⟩
        conv_rhs => rw [← List.takeWhile_append_dropWhile (p := isMarkerChar) (l := text), ← hrest]
        simp [bracketed]
      · cases h
  · rintro ⟨word, hne, hword, rest, rfl⟩
    have hend : ∀ c ∈ (']' :: rest).head?, ¬ isMarkerChar c := by
      rintro c ⟨⟩
      decide
    have htext : bracketed word ++ rest = '[' :: (word ++ ']' :: rest) := by simp [bracketed]
    rw [htext, beginsWithMarker, Text.takeWhile_run hword hend, Text.dropWhile_run hword hend]
    simp [hne, Text.beginsWith_iff]

theorem hasMarker_iff {text : List Char} :
    hasMarker text ↔ ∃ word, word ≠ [] ∧ (∀ c ∈ word, isMarkerChar c) ∧ bracketed word <:+: text := by
  induction text with
  | nil => simp [hasMarker, bracketed]
  | cons c text ih =>
    simp only [hasMarker, Bool.or_eq_true, beginsWithMarker_iff, ih, List.infix_cons_iff, and_or_left,
      exists_or]

theorem isMarker_iff {entry : String} : isMarker entry ↔ Marked entry := by
  simp only [isMarker, hasMarker_iff, isMarkerChar_iff, Marked]

instance : DecidablePred Marked := fun _ => decidable_of_iff _ isMarker_iff

variable [Engine]

theorem addEntry_eq_self_iff {declared : Dict Node} {g : Graph} {entry : String} :
    addEntry declared g entry = .ok g ↔ Marked entry := by
  have hlonger (nodes : Dict Node) : { g with pipeline := g.pipeline ++ [entry], nodes } ≠ g := by
    intro h
    have hlength := congrArg (fun g => g.pipeline.length) h
    simp at hlength
  rw [← isMarker_iff]
  refine ⟨fun h => ?_, addEntry_marker⟩
  by_contra hmarker
  rw [addEntry, if_neg hmarker] at h
  split at h
  · next hhas =>
    rw [Graph.append, if_pos hhas] at h
    exact hlonger g.nodes (Except.ok.inj h)
  · next hhas =>
    cases hnode : declared.get? entry with
    | none => simp [hnode] at h
    | some node =>
      rw [hnode] at h
      simp only [Graph.add, if_neg hhas] at h
      exact hlonger _ (Except.ok.inj h)

variable {registry : Registry} {manifest : String} {g : Graph}

/-- The stages are the entries of the tagged pipeline that are not marked. -/
theorem pipeline_of_ofManifest (h : Graph.ofManifest registry manifest = .ok g) :
    ∃ text, tagValue pipelineTag (Text.lines manifest.toList) = .ok text ∧
      g.pipeline = (pipelineEntries text).filter fun e => ¬ Marked e := by
  obtain ⟨title, description, text, declared, htag, -, hfold⟩ := entries_of_readLines (readLines_of_ofManifest h)
  refine ⟨text, htag, ?_⟩
  obtain ⟨-, hpipeline⟩ := (drawnFrom_empty declared title description).of_foldlM_addEntry hfold
  rw [hpipeline]
  simp [Graph.empty, ← isMarker_iff]

/-- The text of the pipeline in what a graph shows of itself is a string literal. -/
theorem exists_shown (g : Graph) :
    ∃ shown, g.toText = "Graph\x7btitle: " ++ quoted g.title ++ ", description: " ++ quoted g.description ++
        ", pipeline: " ++ shown ++ "\x7d" ∧
      Literal.readScalar shown.toList = .ok (.string g.pipelineText, []) := by
  refine ⟨quoted g.pipelineText, rfl, ?_⟩
  have hend : Literal.Grammar.WordEnd [] := by simp [Literal.Grammar.WordEnd]
  have hscalar := Literal.scalarAt_toText (s := .string g.pipelineText) trivial hend
  simpa [Scalar.toText] using hscalar.readScalar_eq (by simp)

/-- A pipeline and its text determine each other: joined entries are found again by splitting, so
that the text which a graph shows splits into its stages, and what is split off is always an entry.
An entry is passed over if and only if it is marked. -/
theorem pipelineEntries_correspond (registry : Registry) :
    (∀ names : List String, names ≠ [] → (∀ n ∈ names, IsEntry n) →
        pipelineEntries (" -> ".intercalate names) = names) ∧
      (∀ text, ∀ e ∈ pipelineEntries text, IsEntry e) ∧
      (∀ manifest g, Graph.ofManifest registry manifest = .ok g → g.pipeline ≠ [] →
        ∃ shown text, g.toText = "Graph\x7btitle: " ++ quoted g.title ++ ", description: " ++
            quoted g.description ++ ", pipeline: " ++ shown ++ "\x7d" ∧
          Literal.readScalar shown.toList = .ok (.string text, []) ∧
          text = " -> ".intercalate g.pipeline ∧ pipelineEntries text = g.pipeline) ∧
      (∀ manifest g, Graph.ofManifest registry manifest = .ok g →
        ∃ text, tagValue pipelineTag (Text.lines manifest.toList) = .ok text ∧
          g.pipeline = (pipelineEntries text).filter fun e => ¬ Marked e) ∧
      ∀ declared g entry, addEntry declared g entry = .ok g ↔ Marked entry := by
  refine ⟨fun names => pipelineEntries_intercalate, fun text e => isEntry_of_mem_pipelineEntries, ?_,
    fun manifest g => pipeline_of_ofManifest, fun declared g entry => addEntry_eq_self_iff⟩
  intro manifest g h hne
  obtain ⟨text, -, hpipeline⟩ := pipeline_of_ofManifest h
  have hentries : ∀ n ∈ g.pipeline, IsEntry n := by
    intro n hn
    rw [hpipeline] at hn
    exact isEntry_of_mem_pipelineEntries (List.mem_of_mem_filter hn)
  obtain ⟨shown, htoText, hread⟩ := exists_shown g
  exact ⟨shown, g.pipelineText, htoText, hread, rfl, pipelineEntries_intercalate hne hentries⟩

end

open scoped Regex

/-- Names that end with a dash and begin with a bracket of an arrow, an empty name between them, and
a manifest with a marker, a declared name that holds a quote, and a stage that stands twice. -/
theorem pipelineEntries_correspond_dashes :
    pipelineEntries "a- ->  -> >b" = ["a-", "", ">b"] ∧
      ∃ g, Graph.ofManifest .standard
          "TITLE: T\nDESCRIPTION: D\nPIPELINE: n\" -> x[in_1]y->n\"\nn\"(\n  type: \"Limit\"\n)" = .ok g ∧
        g.pipeline = ["n\"", "n\""] ∧ pipelineEntries "n\" -> n\"" = g.pipeline ∧ Marked "x[in_1]y" ∧
        ¬ Marked "[]" := by
  have hcorrespond := pipelineEntries_correspond .standard
  have hentries : ∀ n ∈ ["a-", "", ">b"], IsEntry n := by
    simp only [List.forall_mem_cons]
    exact ⟨⟨by decide, by decide⟩, ⟨by decide, by decide⟩, ⟨by decide, by decide⟩, by simp⟩
  refine ⟨hcorrespond.1 _ (by decide) hentries, ?_⟩
  have hpipeline : (Graph.ofManifest .standard
      "TITLE: T\nDESCRIPTION: D\nPIPELINE: n\" -> x[in_1]y->n\"\nn\"(\n  type: \"Limit\"\n)").toOption.map
        Graph.pipeline = some ["n\"", "n\""] := by decide +kernel
  cases hread : Graph.ofManifest .standard
      "TITLE: T\nDESCRIPTION: D\nPIPELINE: n\" -> x[in_1]y->n\"\nn\"(\n  type: \"Limit\"\n)" with
  | error e => rw [hread] at hpipeline; cases hpipeline
  | ok g =>
    rw [hread] at hpipeline
    have hstages : g.pipeline = ["n\"", "n\""] := Option.some.inj hpipeline
    obtain ⟨-, text, -, -, rfl, hsplit⟩ := hcorrespond.2.2.1 _ _ hread (by simp [hstages])
    refine ⟨g, rfl, hstages, ?_, by decide, by decide⟩
    rw [hstages] at hsplit ⊢
    exact hsplit

end RecordFlow.Manifest
