import Mathlib.Data.List.Infix
import ServiceContract.Text.Removal

/-!
# What the removal of a pattern leaves

A pattern is taken away in one pass, so that what is left can hold it again. For a pattern that no
copy of itself overlaps, this happens exactly where its letters stand around copies of it.
-/

namespace ServiceContract.Text

open List

/-! ## One pass -/

/-- A text, and what is left of it when the copies of a pattern that are met are passed over. -/
inductive Leaves (pattern : List Char) : List Char → List Char → Prop where
  | nil : Leaves pattern [] []
  | copy {rest left} : Leaves pattern rest left → Leaves pattern (pattern ++ rest) left
  | keep {c rest left} (h : ¬ pattern <+: c :: rest) :
      Leaves pattern rest left → Leaves pattern (c :: rest) (c :: left)

variable {pattern cs rest left a b s w t : List Char} {c : Char}

theorem removeFrom_eq (skip : ℕ) (cs : List Char) :
    removeFrom pattern skip cs = remove pattern (cs.drop skip) := by
  induction cs generalizing skip with
  | nil => simp [remove, removeFrom]
  | cons c rest ih =>
      cases skip with
      | zero => rfl
      | succ skip => exact ih skip

theorem remove_copy (hne : pattern ≠ []) (rest : List Char) :
    remove pattern (pattern ++ rest) = remove pattern rest := by
  obtain ⟨c, tail, rfl⟩ := exists_cons_of_ne_nil hne
  have hstart : (c :: tail).isPrefixOf (c :: (tail ++ rest)) = true :=
    isPrefixOf_iff_prefix.mpr (prefix_append (c :: tail) rest)
  rw [cons_append, remove, removeFrom, if_pos hstart, removeFrom_eq]
  simp

theorem remove_keep (h : ¬ pattern <+: c :: rest) :
    remove pattern (c :: rest) = c :: remove pattern rest := by
  rw [remove, removeFrom, if_neg (mt isPrefixOf_iff_prefix.mp h)]
  rfl

theorem Leaves.remove_eq (hne : pattern ≠ []) (h : Leaves pattern cs left) :
    remove pattern cs = left := by
  induction h with
  | nil => rfl
  | copy _ ih => rw [remove_copy hne, ih]
  | keep h _ ih => rw [remove_keep h, ih]

theorem leaves_remove (hne : pattern ≠ []) (cs : List Char) :
    Leaves pattern cs (remove pattern cs) := by
  induction hn : cs.length using Nat.strong_induction_on generalizing cs with
  | _ n ih =>
      by_cases hstart : pattern <+: cs
      · obtain ⟨rest, rfl⟩ := hstart
        have hpos := length_pos_of_ne_nil hne
        rw [remove_copy hne]
        exact .copy (ih rest.length (by simp at hn; omega) rest rfl)
      · cases cs with
        | nil => exact .nil
        | cons c rest =>
            rw [remove_keep hstart]
            exact .keep hstart (ih rest.length (by simp at hn; omega) rest rfl)

theorem leaves_iff (hne : pattern ≠ []) : Leaves pattern cs left ↔ remove pattern cs = left := by
  refine ⟨Leaves.remove_eq hne, ?_⟩
  rintro rfl
  exact leaves_remove hne cs

/-- Nothing is taken away where there is no copy. -/
theorem remove_eq_self (h : ¬ pattern <:+: cs) : remove pattern cs = cs := by
  induction cs with
  | nil => rfl
  | cons c rest ih =>
      have hstart : ¬ pattern <+: c :: rest := fun hp => h hp.isInfix
      have hrest : ¬ pattern <:+: rest := fun hi => h (infix_cons hi)
      rw [remove_keep hstart, ih hrest]

theorem Leaves.length_le (h : Leaves pattern cs left) : left.length ≤ cs.length := by
  induction h with
  | nil => exact le_rfl
  | copy _ ih => simp; omega
  | keep _ _ ih => simpa using ih

/-- Something is taken away where there is a copy. -/
theorem Leaves.length_lt (hne : pattern ≠ []) (h : Leaves pattern cs left)
    (hcopy : pattern <:+: cs) : left.length < cs.length := by
  have hpos := length_pos_of_ne_nil hne
  induction h with
  | nil => exact absurd (eq_nil_of_infix_nil hcopy) hne
  | copy h _ =>
      have := h.length_le
      simp
      omega
  | keep h _ ih =>
      have := ih ((infix_cons_iff.mp hcopy).resolve_left h)
      simpa using this

/-! ## Letters around copies -/

/-- A text spells a word when the letters of the word stand in it in order, with nothing but whole
copies of a pattern between them. -/
inductive Spells (pattern : List Char) : (word text : List Char) → Prop where
  | last (c : Char) : Spells pattern [c] [c]
  | letter {c : Char} {word text : List Char} (copies : ℕ) : Spells pattern word text →
      Spells pattern (c :: word) (c :: ((replicate copies pattern).flatten ++ text))

theorem Leaves.copies (h : Leaves pattern cs left) (n : ℕ) :
    Leaves pattern ((replicate n pattern).flatten ++ cs) left := by
  induction n with
  | zero => exact h
  | succ n ih =>
      rw [replicate_succ, flatten_cons, append_assoc]
      exact .copy ih

/-- What is left comes from letters that were kept, and the copies between them. -/
theorem Leaves.exists_spells {tail : List Char} (h : Leaves pattern cs (w ++ tail)) (hw : w ≠ []) :
    ∃ n t b, cs = (replicate n pattern).flatten ++ (t ++ b) ∧ Spells pattern w t ∧
      ¬ pattern <+: t ++ b := by
  generalize hleft : w ++ tail = left at h
  induction h generalizing w with
  | nil => exact absurd (append_eq_nil_iff.mp hleft).1 hw
  | copy _ ih =>
      obtain ⟨n, t, b, rfl, hspells, hno⟩ := ih hw hleft
      exact ⟨n + 1, t, b, by simp [replicate_succ], hspells, hno⟩
  | @keep c rest left hno _ ih =>
      obtain ⟨d, word, rfl⟩ := exists_cons_of_ne_nil hw
      rw [cons_append, cons.injEq] at hleft
      obtain ⟨rfl, hleft⟩ := hleft
      by_cases hword : word = []
      · subst hword
        exact ⟨0, [d], rest, by simp, .last d, hno⟩
      · obtain ⟨n, t, b, rfl, hspells, -⟩ := ih hword hleft
        refine ⟨0, d :: ((replicate n pattern).flatten ++ t), b, by simp, .letter n hspells, ?_⟩
        simpa using hno

/-- The rest of what is left is left of the rest. -/
theorem Leaves.exists_suffix {front : List Char} (h : Leaves pattern cs (front ++ left)) :
    ∃ rest, rest <:+ cs ∧ Leaves pattern rest left := by
  generalize hall : front ++ left = all at h
  induction h generalizing front with
  | nil =>
      obtain ⟨rfl, rfl⟩ := append_eq_nil_iff.mp hall
      exact ⟨[], suffix_rfl, .nil⟩
  | copy _ ih =>
      obtain ⟨rest, hrest, hleaves⟩ := ih hall
      exact ⟨rest, hrest.trans (suffix_append _ _), hleaves⟩
  | @keep c tail kept hno h ih =>
      cases front with
      | nil =>
          obtain rfl : left = c :: kept := hall
          exact ⟨c :: tail, suffix_rfl, .keep hno h⟩
      | cons d front =>
          obtain ⟨rest, hrest, hleaves⟩ := ih (cons.inj hall).2
          exact ⟨rest, hrest.trans (suffix_cons c tail), hleaves⟩

/-! ## Patterns without overlap -/

/-- A pattern that begins nowhere in a copy of itself but at its start. -/
structure IsBorderless (pattern : List Char) : Prop where
  ne_nil : pattern ≠ []
  eq_self : ∀ s, s <+: pattern → s <:+ pattern → s ≠ [] → s = pattern

namespace IsBorderless

variable (hp : IsBorderless pattern)

include hp

/-- A text that is too short for the pattern and goes on behind it: how the pattern would overlap
what stands there. -/
theorem exists_overlap (hstart : pattern <+: s ++ t) (hno : ¬ pattern <+: s) :
    ∃ q, pattern = s ++ q ∧ q <+: t ∧ q ≠ [] := by
  have hlength : s.length ≤ pattern.length := by
    by_contra hlong
    exact hno (prefix_of_prefix_length_le hstart (prefix_append s t) (by omega))
  obtain ⟨q, rfl⟩ := prefix_of_prefix_length_le (prefix_append s t) hstart hlength
  refine ⟨q, rfl, (prefix_append_right_inj s).mp hstart, ?_⟩
  rintro rfl
  simp at hno

theorem not_prefix_append_copy (hs : s ≠ []) (hno : ¬ pattern <+: s) (b : List Char) :
    ¬ pattern <+: s ++ (pattern ++ b) := by
  intro hstart
  obtain ⟨q, hq, hqt, hne⟩ := hp.exists_overlap hstart hno
  have hlength : q.length ≤ pattern.length := by simp [hq]
  have hqp : q <+: pattern := prefix_of_prefix_length_le hqt (prefix_append pattern b) hlength
  have hall := hp.eq_self q hqp ⟨s, hq.symm⟩ hne
  rw [hall] at hq
  exact hs (by simpa using hq)

theorem not_prefix_append_start (hs : s <+: pattern) (hne : s ≠ pattern)
    (hno : ¬ pattern <+: a) : ¬ pattern <+: a ++ s := by
  intro hstart
  obtain ⟨q, hq, hqs, hqne⟩ := hp.exists_overlap hstart hno
  have hall := hp.eq_self q (hqs.trans hs) ⟨a, hq.symm⟩ hqne
  rw [hall] at hqs
  exact hne (hs.eq_of_length_le hqs.length_le)

theorem not_prefix_suffix_append (hs : s <:+ pattern) (hne : s ≠ pattern) (hnil : s ≠ [])
    (b : List Char) : ¬ pattern <+: s ++ b := by
  intro hstart
  have hsp := prefix_of_prefix_length_le (prefix_append s b) hstart hs.length_le
  exact hne (hp.eq_self s hsp hs hnil)

end IsBorderless

/-- A text that spells a word is the word, or has a first copy within it. -/
theorem Spells.eq_or_exists_copy (h : Spells pattern w t) : t = w ∨
    ∃ s r n t', w = s ++ r ∧ s ≠ [] ∧ Spells pattern r t' ∧
      t = s ++ (pattern ++ ((replicate n pattern).flatten ++ t')) := by
  induction h with
  | last c => exact .inl rfl
  | @letter c word text copies h ih =>
      cases copies with
      | succ n => exact .inr ⟨[c], word, n, text, rfl, by simp, h, by simp [replicate_succ]⟩
      | zero =>
          rcases ih with rfl | ⟨s, r, n, t', rfl, -, hr, rfl⟩
          · exact .inl rfl
          · exact .inr ⟨c :: s, r, n, t', rfl, by simp, hr, rfl⟩

theorem Spells.ne_nil (h : Spells pattern w t) : w ≠ [] := by
  cases h <;> simp

section

variable (hp : IsBorderless pattern)

include hp

/-- No copy begins where a text spells the end of the pattern. -/
theorem Spells.not_prefix_append (h : Spells pattern w t) (hw : w <:+ pattern) (hne : w ≠ pattern)
    (b : List Char) : ¬ pattern <+: t ++ b := by
  rcases h.eq_or_exists_copy with rfl | ⟨s, r, n, t', rfl, hs, hr, rfl⟩
  · exact hp.not_prefix_suffix_append hw hne h.ne_nil b
  · have hshort : ¬ pattern <+: s := by
      intro hstart
      have hlong := hstart.length_le
      have hfits := hw.length_le
      have hpos := length_pos_of_ne_nil hr.ne_nil
      rw [length_append] at hfits
      omega
    rw [append_assoc, append_assoc]
    exact hp.not_prefix_append_copy hs hshort _

/-- A text that spells the end of the pattern leaves it. -/
theorem Spells.leaves (h : Spells pattern w t) (hw : w <:+ pattern) (hne : w ≠ pattern)
    (hb : Leaves pattern b left) : Leaves pattern (t ++ b) (w ++ left) := by
  induction h with
  | last c => exact .keep ((Spells.last c).not_prefix_append hp hw hne b) hb
  | @letter c word text copies h ih =>
      have hno := (h.letter copies).not_prefix_append hp hw hne b
      have hsuffix : word <:+ pattern := (suffix_cons c word).trans hw
      have hshort : word ≠ pattern := by
        rintro rfl
        exact absurd hw.length_le (by simp)
      have hrest := (ih hsuffix hshort).copies copies
      rw [← append_assoc] at hrest
      exact .keep hno hrest

/-- A copy is taken away wherever it stands. -/
theorem Leaves.append_copy (ha : Leaves pattern a left) {left' : List Char}
    (hb : Leaves pattern b left') : Leaves pattern (a ++ (pattern ++ b)) (left ++ left') := by
  induction ha with
  | nil => exact .copy hb
  | copy _ ih =>
      rw [append_assoc]
      exact .copy ih
  | keep hno _ ih => exact .keep (hp.not_prefix_append_copy (by simp) hno b) ih

/-- The start of a copy that does not go on is left. -/
theorem Leaves.append_start (ha : Leaves pattern a left) (hs : s <+: pattern) (hne : s ≠ pattern) :
    Leaves pattern (a ++ s) (left ++ s) := by
  induction ha with
  | nil =>
      have hno : ¬ pattern <:+: s := fun h =>
        hne (hs.eq_of_length_le h.length_le)
      exact (leaves_iff hp.ne_nil).mpr (remove_eq_self hno)
  | copy _ ih =>
      rw [append_assoc]
      exact .copy ih
  | keep hno _ ih => exact .keep (hp.not_prefix_append_start hs hne hno) ih

/-- Where a pattern is spelled around copies of it, the copies are taken away and it is left. -/
theorem remove_spelled (h : Spells pattern pattern t) (hne : t ≠ pattern) (a b : List Char) :
    remove pattern (a ++ (t ++ b)) = remove pattern a ++ (pattern ++ remove pattern b) := by
  rcases h.eq_or_exists_copy with rfl | ⟨s, r, n, t', hw, hs, hr, rfl⟩
  · exact absurd rfl hne
  · have hstart : s <+: pattern := ⟨r, hw.symm⟩
    have hsuffix : r <:+ pattern := ⟨s, hw.symm⟩
    have hsne : s ≠ pattern := by
      intro heq
      rw [heq] at hw
      exact hr.ne_nil (by simpa using hw)
    have hrne : r ≠ pattern := by
      intro heq
      rw [heq] at hw
      exact hs (by simpa using hw)
    have hfront := (leaves_remove hp.ne_nil a).append_start hp hstart hsne
    have hback := (hr.leaves hp hsuffix hrne (leaves_remove hp.ne_nil b)).copies n
    have hall := (hfront.append_copy hp hback).remove_eq hp.ne_nil
    calc remove pattern (a ++ (s ++ (pattern ++ ((replicate n pattern).flatten ++ t')) ++ b))
        = remove pattern (a ++ s ++ (pattern ++ ((replicate n pattern).flatten ++ (t' ++ b)))) := by
          simp
      _ = remove pattern a ++ s ++ (r ++ remove pattern b) := hall
      _ = remove pattern a ++ ((s ++ r) ++ remove pattern b) := by simp
      _ = remove pattern a ++ (pattern ++ remove pattern b) := by rw [← hw]

/-- What is left holds the pattern exactly when the text spells it around copies of it. -/
theorem infix_remove_iff : pattern <:+: remove pattern cs ↔
    ∃ t, t <:+: cs ∧ Spells pattern pattern t ∧ t ≠ pattern := by
  constructor
  · rintro ⟨front, back, hleft⟩
    have hleaves := leaves_remove hp.ne_nil cs
    rw [← hleft, append_assoc] at hleaves
    obtain ⟨rest, hrest, hleaves⟩ := hleaves.exists_suffix
    obtain ⟨n, t, b, rfl, hspells, hno⟩ := hleaves.exists_spells hp.ne_nil
    have ht : t <:+: (replicate n pattern).flatten ++ (t ++ b) :=
      (prefix_append t b).isInfix.trans (suffix_append _ _).isInfix
    refine ⟨t, ht.trans hrest.isInfix, hspells, ?_⟩
    rintro rfl
    exact hno (prefix_append t b)
  · rintro ⟨t, ⟨a, b, rfl⟩, hspells, hne⟩
    rw [append_assoc, remove_spelled hp hspells hne]
    exact (prefix_append pattern _).isInfix.trans (suffix_append _ _).isInfix

end

end ServiceContract.Text
