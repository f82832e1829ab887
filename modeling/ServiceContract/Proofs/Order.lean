import Mathlib.Data.List.Chain

/-!
# Order of names

What is sorted by its name stands in the order of the names.
-/

namespace ServiceContract

theorem pairwise_mergeSort_name {α : Type} (name : α → String) (as : List α) :
    (as.mergeSort fun a b => name a ≤ name b).Pairwise (name · ≤ name ·) := by
  have htrans : ∀ a b c, decide (name a ≤ name b) = true → decide (name b ≤ name c) = true →
      decide (name a ≤ name c) = true := by
    intro a b c hab hbc
    exact decide_eq_true (String.le_trans (of_decide_eq_true hab) (of_decide_eq_true hbc))
  have htotal : ∀ a b, (decide (name a ≤ name b) || decide (name b ≤ name a)) = true := by
    intro a b
    simpa using String.le_total (name a) (name b)
  exact (List.pairwise_mergeSort htrans htotal as).imp of_decide_eq_true

/-! ## Sorted names -/

variable {names : List String}

/-- The same names stand in one order. -/
theorem eq_of_perm_of_pairwise {others : List String} (hperm : names.Perm others)
    (hnames : names.Pairwise (· ≤ ·)) (hothers : others.Pairwise (· ≤ ·)) : names = others :=
  hperm.eq_of_pairwise (fun _ _ _ _ => String.le_antisymm) hnames hothers

/-- A name that occurs before stands directly before. -/
theorem mem_iff_getLast?_of_pairwise {name : String} (h : (names ++ [name]).Pairwise (· ≤ ·)) :
    name ∈ names ↔ names.getLast? = some name := by
  constructor
  · intro hmem
    obtain ⟨before, last, rfl⟩ : ∃ before last, names = before ++ [last] :=
      ⟨_, _, (List.dropLast_append_getLast (List.ne_nil_of_mem hmem)).symm⟩
    obtain ⟨hsorted, -, hbehind⟩ := List.pairwise_append.mp h
    have hle : last ≤ name := hbehind last (by simp) name (by simp)
    rw [List.getLast?_append, List.getLast?_singleton, Option.some_or]
    rcases List.mem_append.mp hmem with hbefore | hlast
    · have hge := (List.pairwise_append.mp hsorted).2.2 name hbefore last (by simp)
      rw [String.le_antisymm hle hge]
    · rw [List.mem_singleton.mp hlast]
  · exact List.mem_of_getLast?

/-- Names are distinct if no two neighbours are the same. -/
theorem nodup_iff_isChain_of_pairwise (h : names.Pairwise (· ≤ ·)) :
    names.Nodup ↔ names.IsChain (· ≠ ·) := by
  constructor
  · exact fun hnodup => hnodup.isChain
  · intro hchain
    induction names using List.reverseRecOn with
    | nil => exact List.nodup_nil
    | append_singleton before name ih =>
        obtain ⟨hbefore, -, hlast⟩ := List.isChain_append.mp hchain
        have hnew : name ∉ before := by
          rw [mem_iff_getLast?_of_pairwise h]
          intro hmem
          exact hlast name hmem name rfl rfl
        have hnodup := ih (List.pairwise_append.mp h).1 hbefore
        refine List.nodup_append.mpr ⟨hnodup, List.pairwise_singleton _ _, ?_⟩
        rintro a ha b hb rfl
        exact hnew (List.mem_singleton.mp hb ▸ ha)

end ServiceContract
