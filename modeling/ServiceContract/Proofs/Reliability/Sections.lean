import ServiceContract.Document.Bundle
import ServiceContract.Proofs.Yaml.Margin

/-!
# Bundles taken apart

The separators of a bundle are the lines that are nothing but three dashes, whatever its documents
hold, so that the text of every document is found between them.
-/

namespace ServiceContract

open Text Yaml

/-- What stands on a separator line. -/
def threeDashes : List Char := "---".toList

def isNewline (c : Char) : Bool := c = '\n'

/-- The texts of documents, which are maps. -/
def documentTexts (documents : List Entries) : List (List Char) :=
  documents.map fun entries => documentText (.map entries)

theorem toList_bundle (documents : List Entries) : (bundle (documents.map .map)).toList =
    (documentTexts documents).flatMap fun text => threeDashes ++ '\n' :: text := by
  rw [bundle, String.toList_ofList, bundleText, documentTexts, List.flatMap_map, List.flatMap_map]
  rfl

/-! ## The lines of a document -/

variable {documents : List Entries} {text : List Char}

theorem writes_of_mem (h : text ∈ documentTexts documents) : Writes .blank text .blank := by
  rcases List.mem_map.mp h with ⟨entries, -, rfl⟩
  exact writes_documentText entries

/-- No line of a document is a separator. -/
theorem content_ne_threeDashes (h : text ∈ documentTexts documents) :
    ∀ line ∈ linesBy isBreak text, content isBreak line ≠ threeDashes := by
  have hwrites := writes_of_mem h
  rcases hwrites.lines (lines_linesBy isBreak text) with ⟨hhead, htail⟩
  intro line hline
  apply Writes.content_ne
  cases hall : linesBy isBreak text with
  | nil =>
      rw [hall] at hline
      cases hline
  | cons first rest =>
      rw [hall] at hline hhead htail
      rcases List.mem_cons.mp hline with rfl | hline
      · exact hhead line rfl
      · exact htail line hline

/-! ## Bundles -/

theorem bundle_takesApart_isBreak (documents : List Entries) : TakesApart isBreak threeDashes
    (bundle (documents.map .map)).toList (documentTexts documents) := by
  rw [toList_bundle]
  apply takesApart_flatMap rfl (isBreak_of_any rfl)
  · intro text htext
    exact (writes_of_mem htext).isBreak_getLast?
  · intro text htext
    exact content_ne_threeDashes htext

theorem bundle_takesApart_isNewline
    (h : ∀ text ∈ documentTexts documents, text.getLast? = some '\n') :
    TakesApart isNewline threeDashes (bundle (documents.map .map)).toList
      (documentTexts documents) := by
  rw [toList_bundle]
  apply takesApart_flatMap rfl (by simp [threeDashes, isNewline])
  · intro text htext c hc
    rw [h text htext] at hc
    cases hc
    rfl
  · intro text htext
    apply content_ne_of_finer _ (isBreak_of_any rfl) (content_ne_threeDashes htext)
    intro c hc
    obtain rfl : c = '\n' := by simpa [isNewline] using hc
    rfl

/-- A bundle is taken apart at its separators into the texts of its documents. Where each of them
ends with a newline, newlines alone are enough to tell its lines; else all line breaks are. So no
two lists of texts make the same bundle. -/
theorem bundle_takesApart (documents : List Entries) :
    ((∀ text ∈ documentTexts documents, text.getLast? = some '\n') →
      TakesApart isNewline threeDashes (bundle (documents.map .map)).toList
        (documentTexts documents)) ∧
    TakesApart isBreak threeDashes (bundle (documents.map .map)).toList
      (documentTexts documents) ∧
    ∀ others : List Entries, bundle (documents.map .map) = bundle (others.map .map) ↔
      documentTexts documents = documentTexts others := by
  refine ⟨bundle_takesApart_isNewline, bundle_takesApart_isBreak documents, ?_⟩
  intro others
  constructor
  · intro heq
    have hparts := (bundle_takesApart_isBreak documents).between
    rw [heq, (bundle_takesApart_isBreak others).between] at hparts
    exact (List.cons.inj hparts).2.symm
  · intro heq
    rw [← String.toList_inj, toList_bundle, toList_bundle, heq]

/-- Documents with dashes in their keys and texts, over several lines. -/
def dashedDocuments : List Entries :=
  [[("---", .text "---\n---\n --- \n"), ("a\n---\n", .text "---")], [],
    [("spec", .map [("---", .list [.text "\n---\n\n", .text "- ---", .list [.text "---\r\n"]])])]]

theorem bundle_takesApart_dashed :
    (∀ text ∈ documentTexts dashedDocuments, text.getLast? = some '\n') ∧
      TakesApart isNewline threeDashes (bundle (dashedDocuments.map .map)).toList
        (documentTexts dashedDocuments) := by
  have hends : ∀ text ∈ documentTexts dashedDocuments, text.getLast? = some '\n' := by
    decide +kernel
  exact ⟨hends, (bundle_takesApart dashedDocuments).1 hends⟩

/-- A text can also end with another line break, which hides the separator behind it from newlines
alone. -/
example : ((linesBy isNewline (bundle [.map [("a", .text "b\n\u2028")], .map []]).toList).countP
    fun line => content isNewline line = threeDashes) = 1 := by decide +kernel

end ServiceContract
