import Mathlib.Logic.Relation
import RecordFlow.Manifest.Reader
import RecordFlow.Proofs.Text.Lines
import RecordFlow.Regex.Engine

/-! # Manifests that differ in layout

Reading takes the tagged lines and the lines of declarations out of a manifest, each kind
in its own order. Blank lines are neither, so it does not matter where they stand, how
lines end, or where the tagged lines stand among the others.
-/

namespace RecordFlow.Manifest

def isTagged (line : List Char) : Bool := reservedTags.any fun tag => Text.beginsWith tag.toList line

/-- One step from a list of lines to another: a blank line comes in, or a tagged line moves down past
lines without tags. -/
inductive LayoutStep : List (List Char) → List (List Char) → Prop where

  | blank {before after : List (List Char)} {line : List Char} : Text.isBlank line →
      LayoutStep (before ++ after) (before ++ line :: after)

  | tagged {before between after : List (List Char)} {line : List Char} : isTagged line →
      (∀ other ∈ between, ¬ isTagged other) →
      LayoutStep (before ++ line :: (between ++ after)) (before ++ between ++ line :: after)

/-- Steps in both directions lead from the lines of one manifest to the lines of the other. Lines may
end differently in the two. -/
def Relaid (manifest manifest' : String) : Prop :=
  ∃ ls ls', Text.HasLines ls manifest.toList ∧ Relation.EqvGen LayoutStep ls ls' ∧
    Text.HasLines ls' manifest'.toList

variable {ls ls' : List (List Char)}

theorem isDeclarationLine_eq (line : List Char) :
    isDeclarationLine line = (!Text.isBlank line && !isTagged line) := rfl

theorem not_isTagged_of_isBlank {line : List Char} (h : Text.isBlank line) : ¬ isTagged line := by
  rw [isTagged, List.any_eq_true]
  rintro ⟨tag, htag, hbegins⟩
  obtain ⟨c, hc, hblank⟩ : ∃ c ∈ tag.toList, ¬ Unicode.isWhiteSpace c := by
    simp only [reservedTags, List.mem_cons, List.not_mem_nil, or_false] at htag
    rcases htag with rfl | rfl | rfl
    · exact ⟨'T', by decide, by decide⟩
    · exact ⟨'D', by decide, by decide⟩
    · exact ⟨'P', by decide, by decide⟩
  exact hblank (List.all_eq_true.1 h c ((Text.beginsWith_iff.1 hbegins).subset hc))

/-- The lines that a manifest is read from. -/
structure SameLines (ls ls' : List (List Char)) : Prop where
  tagged : ls.filter isTagged = ls'.filter isTagged
  declarations : ls.filter isDeclarationLine = ls'.filter isDeclarationLine

theorem LayoutStep.sameLines (h : LayoutStep ls ls') : SameLines ls ls' := by
  cases h with
  | blank hblank =>
    constructor
    · simp [not_isTagged_of_isBlank hblank]
    · simp [isDeclarationLine_eq, hblank]
  | tagged htagged hbetween =>
    have hnone : List.filter isTagged _ = [] := List.filter_eq_nil_iff.2 hbetween
    constructor
    · simp [htagged, hnone]
    · simp [isDeclarationLine_eq, htagged]

theorem sameLines_of_steps (h : Relation.EqvGen LayoutStep ls ls') : SameLines ls ls' := by
  induction h with
  | rel _ _ h => exact h.sameLines
  | refl => exact ⟨rfl, rfl⟩
  | symm _ _ _ ih => exact ⟨ih.tagged.symm, ih.declarations.symm⟩
  | trans _ _ _ _ _ ih ih' => exact ⟨ih.tagged.trans ih'.tagged, ih.declarations.trans ih'.declarations⟩

theorem isTagged_of_taggedValue? {tag : String} (htag : tag ∈ reservedTags) {line value : List Char}
    (h : taggedValue? tag line = some value) : isTagged line := by
  obtain ⟨rest, hrest, -⟩ := Option.map_eq_some_iff.1 h
  refine List.any_eq_true.2 ⟨tag, htag, Text.beginsWith_iff.2 ⟨[':', ' '] ++ rest, ?_⟩⟩
  rw [Text.after?_eq_some_iff.1 hrest, List.append_assoc]

variable [Engine]

theorem tagValue_filter {tag : String} (htag : tag ∈ reservedTags) (ls : List (List Char)) :
    tagValue tag (ls.filter isTagged) = tagValue tag ls := by
  have hfind : (ls.filter isTagged).findSome? (taggedValue? tag) = ls.findSome? (taggedValue? tag) := by
    induction ls with
    | nil => rfl
    | cons line ls ih =>
      cases hvalue : taggedValue? tag line with
      | some value => simp [isTagged_of_taggedValue? htag hvalue, hvalue]
      | none =>
        rw [List.findSome?_cons, hvalue, ← ih, List.filter_cons]
        split
        · rw [List.findSome?_cons, hvalue]
        · rfl
  rw [tagValue, tagValue, hfind]

theorem SameLines.readLines_eq (h : SameLines ls ls') (registry : Registry) :
    readLines registry ls = readLines registry ls' := by
  have htag : ∀ tag ∈ reservedTags, tagValue tag ls = tagValue tag ls' := by
    intro tag htag
    rw [← tagValue_filter htag ls, h.tagged, tagValue_filter htag ls']
  have hblock : declarationBlock ls = declarationBlock ls' := by
    rw [declarationBlock, h.declarations, declarationBlock]
  rw [readLines, readLines, hblock, htag titleTag (by simp [reservedTags]),
    htag descriptionTag (by simp [reservedTags]), htag pipelineTag (by simp [reservedTags])]

end RecordFlow.Manifest

namespace RecordFlow.Graph

open Manifest

section

variable [Engine]

/-- Manifests that differ in layout give the same graph, or fail for the same error below the outer layer. -/
theorem ofManifest_of_relaid {manifest manifest' : String} (h : Relaid manifest manifest') (registry : Registry) :
    ∃ outcome : Except Error Graph,
      ofManifest registry manifest = outcome.mapError (.reading .graph manifest) ∧
        ofManifest registry manifest' = outcome.mapError (.reading .graph manifest') := by
  obtain ⟨ls, ls', hls, hsteps, hls'⟩ := h
  refine ⟨readLines registry ls, ?_, ?_⟩
  · rw [ofManifest, hls.lines_eq]
  · rw [ofManifest, hls'.lines_eq, (sameLines_of_steps hsteps).readLines_eq]

end

open scoped Regex

/-- Carriage returns, a blank line in a declaration, and the tag of the pipeline moved to the end. -/
theorem ofManifest_of_relaid_mixed :
    let manifest := "TITLE: T\nPIPELINE: n\nDESCRIPTION: D\nn(\n  type: 'Limit'\n)"
    let manifest' := "TITLE: T\r\nn(\r\n \t\n  type: 'Limit'\n)\r\nPIPELINE: n\nDESCRIPTION: D\r\n"
    Relaid manifest manifest' ∧ ∃ g, ofManifest .standard manifest = .ok g ∧
      ofManifest .standard manifest' = .ok g := by
  intro manifest manifest'
  let title := "TITLE: T".toList
  let pipeline := "PIPELINE: n".toList
  let description := "DESCRIPTION: D".toList
  let declaration := ["n(".toList, "  type: 'Limit'".toList, ")".toList]
  have hlines : Text.lines manifest.toList = title :: pipeline :: description :: declaration := by decide +kernel
  have hlines' : Text.lines manifest'.toList = [title, "n(".toList, " \t".toList, "  type: 'Limit'".toList,
      ")".toList, pipeline, description] := by decide +kernel
  have huntagged : ∀ other ∈ declaration, ¬ isTagged other := by decide
  have hdown : LayoutStep (title :: pipeline :: description :: declaration)
      (title :: pipeline :: (declaration ++ [description])) :=
    @LayoutStep.tagged [title, pipeline] declaration [] description (by decide) huntagged
  have hdown' : LayoutStep (title :: pipeline :: (declaration ++ [description]))
      (title :: (declaration ++ [pipeline, description])) :=
    @LayoutStep.tagged [title] declaration [description] pipeline (by decide) huntagged
  have hblank : LayoutStep (title :: (declaration ++ [pipeline, description]))
      [title, "n(".toList, " \t".toList, "  type: 'Limit'".toList, ")".toList, pipeline, description] :=
    @LayoutStep.blank [title, "n(".toList] _ " \t".toList (by decide)
  have hrelaid : Relaid manifest manifest' :=
    ⟨_, _, Text.lines_eq_iff.1 hlines, .trans _ _ _ (.rel _ _ hdown) (.trans _ _ _ (.rel _ _ hdown') (.rel _ _ hblank)),
      Text.lines_eq_iff.1 hlines'⟩
  have hok : (ofManifest .standard manifest).isOk := by decide +kernel
  obtain ⟨outcome, h, h'⟩ := ofManifest_of_relaid hrelaid .standard
  cases outcome with
  | error e => rw [h] at hok; cases hok
  | ok g => exact ⟨hrelaid, g, h, h'⟩

end RecordFlow.Graph
