import ServiceContract.Document.Agreement
import ServiceContract.Proofs.Text.Removal
import ServiceContract.Proofs.Text.Trimming

/-!
# Labels of rate plans

A label has no white space at its ends. The words `rate plan` are taken out of it once: where they
are written around copies of themselves, they come together again.
-/

namespace ServiceContract

open Text

/-- The words that a label is freed of. -/
def planWords : List Char := "rate plan".toList

/-- A text in which the words are written around copies of themselves: their letters stand in it in
order, with nothing but whole copies between them, and at least one. -/
def HidesWords (raw : String) : Prop :=
  ∃ t, t <:+: raw.toList ∧ Spells planWords planWords t ∧ t ≠ planWords

/-- What the label of a rate plan is like. -/
structure LabelFacts (raw : String) : Prop where
  trimmed : IsTrimmed (ratePlanLabel raw).toList
  /-- The words stand in the label if the text hides them. -/
  words_iff : planWords <:+: (ratePlanLabel raw).toList ↔ HidesWords raw
  /-- The label is its own label unless the text hides the words. -/
  fixed_iff : ratePlanLabel (ratePlanLabel raw) = ratePlanLabel raw ↔ ¬ HidesWords raw

theorem planWords_isBorderless : IsBorderless planWords where
  ne_nil := by decide
  eq_self := by
    have hall : ∀ s ∈ planWords.inits, s <:+ planWords → s ≠ [] → s = planWords := by decide
    intro s hs
    exact hall s ((List.mem_inits s planWords).mpr hs)

theorem planWords_eq : planWords = ['r', 'a', 't', 'e', ' ', 'p', 'l', 'a', 'n'] := by decide

theorem planWords_isTrimmed : IsTrimmed planWords := by
  rw [planWords_eq]
  constructor
  · intro c hc
    obtain rfl : 'r' = c := by simpa using hc
    decide
  · intro c hc
    obtain rfl : 'n' = c := by simpa using hc
    decide

theorem toList_ratePlanLabel (raw : String) :
    (ratePlanLabel raw).toList = Text.trimmed (remove planWords raw.toList) := by
  rw [ratePlanLabel, String.toList_ofList]
  rfl

theorem planWords_isInfix_iff {raw : String} :
    planWords <:+: (ratePlanLabel raw).toList ↔ HidesWords raw := by
  rw [toList_ratePlanLabel, isInfix_trimmed_iff planWords_isTrimmed planWords_isBorderless.ne_nil]
  exact infix_remove_iff planWords_isBorderless

/-- A text without the words and without white space at its ends is its own label, and no other
text is. -/
theorem ratePlanLabel_eq_self_iff {label : String} (h : IsTrimmed label.toList) :
    ratePlanLabel label = label ↔ ¬ planWords <:+: label.toList := by
  rw [← String.toList_inj, toList_ratePlanLabel]
  constructor
  · intro heq hinfix
    have hleaves := leaves_remove planWords_isBorderless.ne_nil label.toList
    have hshort := hleaves.length_lt planWords_isBorderless.ne_nil hinfix
    have hcut := (trimmed_isInfix (remove planWords label.toList)).length_le
    rw [heq] at hcut
    omega
  · intro hno
    rw [remove_eq_self hno, trimmed_eq_self h]

theorem ratePlanLabel_labelFacts (raw : String) : LabelFacts raw := by
  have htrimmed : IsTrimmed (ratePlanLabel raw).toList := by
    rw [toList_ratePlanLabel]
    exact trimmed_isTrimmed _
  exact ⟨htrimmed, planWords_isInfix_iff,
    (ratePlanLabel_eq_self_iff htrimmed).trans (not_congr planWords_isInfix_iff)⟩

/-- The words that are taken out leave the words behind. -/
theorem ratePlanLabel_keepsWords : ratePlanLabel "rate rate planplan" = "rate plan" ∧
    ratePlanLabel (ratePlanLabel "rate rate planplan") = "" := by
  decide +kernel

end ServiceContract
