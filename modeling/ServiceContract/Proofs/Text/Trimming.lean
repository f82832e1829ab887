import Mathlib.Data.List.DropRight
import Mathlib.Data.List.Infix
import ServiceContract.Text.Blank

/-!
# Texts without white space at their ends

What is taken from the ends of a text is white space, and all of it.
-/

namespace ServiceContract.Text

open List

variable {cs w : List Char} {c : Char}

/-- A text that neither begins nor ends with white space. -/
structure IsTrimmed (cs : List Char) : Prop where
  head : ∀ c ∈ cs.head?, isWhite c = false
  last : ∀ c ∈ cs.getLast?, isWhite c = false

theorem trimmed_eq (cs : List Char) :
    trimmed cs = rdropWhile isWhite (dropWhile isWhite cs) := rfl

theorem trimmed_eq_self (h : IsTrimmed cs) : trimmed cs = cs := by
  have hfront : dropWhile isWhite cs = cs := by
    cases cs with
    | nil => rfl
    | cons c rest => rw [dropWhile_cons_of_neg (by simp [h.head c rfl])]
  have hback : rdropWhile isWhite cs = cs := by
    rw [rdropWhile_eq_self_iff]
    intro hne
    simpa using h.last (cs.getLast hne) (getLast?_eq_some_getLast hne)
  rw [trimmed_eq, hfront, hback]

theorem trimmed_isTrimmed (cs : List Char) : IsTrimmed (trimmed cs) := by
  constructor
  · intro c hc
    have hback : trimmed cs <+: dropWhile isWhite cs := rdropWhile_prefix isWhite _
    obtain ⟨rest, hrest⟩ := hback
    have hhead : (dropWhile isWhite cs).head? = some c := by
      rw [← hrest, head?_append, hc, Option.some_or]
    simpa [hhead] using head?_dropWhile_not isWhite cs
  · intro c hc
    have hne : trimmed cs ≠ [] := by
      rintro hnil
      rw [hnil] at hc
      cases hc
    have hlast := rdropWhile_last_not isWhite (dropWhile isWhite cs) hne
    rw [getLast?_eq_some_getLast hne, Option.mem_some_iff] at hc
    rw [← hc]
    exact eq_false_of_ne_true hlast

theorem trimmed_isInfix (cs : List Char) : trimmed cs <:+: cs := by
  have hback : trimmed cs <+: dropWhile isWhite cs := rdropWhile_prefix isWhite _
  exact hback.isInfix.trans (dropWhile_suffix isWhite).isInfix

/-- What begins with no white space stands behind that at the front. -/
theorem isInfix_dropWhile (h : ∀ c ∈ w.head?, isWhite c = false) (hne : w ≠ []) :
    w <:+: dropWhile isWhite cs ↔ w <:+: cs := by
  refine ⟨fun hw => hw.trans (dropWhile_suffix isWhite).isInfix, fun hw => ?_⟩
  induction cs with
  | nil => exact hw
  | cons c rest ih =>
      cases hc : isWhite c with
      | false => rwa [dropWhile_cons_of_neg (by simp [hc])]
      | true =>
          rw [dropWhile_cons_of_pos hc]
          refine ih ((infix_cons_iff.mp hw).resolve_left ?_)
          intro hprefix
          obtain ⟨d, tail, rfl⟩ := exists_cons_of_ne_nil hne
          have hd := h d rfl
          rw [(cons_prefix_cons.mp hprefix).1, hc] at hd
          cases hd

/-- What neither begins nor ends with white space is not cut at the ends of a text. -/
theorem isInfix_trimmed_iff (h : IsTrimmed w) (hne : w ≠ []) : w <:+: trimmed cs ↔ w <:+: cs := by
  have hback : ∀ c ∈ w.reverse.head?, isWhite c = false := by
    rw [head?_reverse]
    exact h.last
  rw [trimmed, ← reverse_infix, reverse_reverse,
    isInfix_dropWhile hback (by simpa using hne), reverse_infix, isInfix_dropWhile h.head hne]

theorem mem_trimmed_iff (h : isWhite c = false) : c ∈ trimmed cs ↔ c ∈ cs := by
  have hc : IsTrimmed [c] := ⟨by simpa using h, by simpa using h⟩
  simpa [singleton_infix_iff] using @isInfix_trimmed_iff cs [c] hc (by simp)

end ServiceContract.Text
