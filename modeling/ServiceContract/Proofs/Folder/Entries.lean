import Mathlib.Data.List.Basic
import ServiceContract.Folder.Step
import ServiceContract.Proofs.Order

/-! # Entries of folders -/

namespace ServiceContract.Folder

variable {f root : Folder} {n m : String} {e : Entry}

/-! ## One folder -/

theorem get?_cons (k m : String) (d : Entry) (rest : Folder) :
    get? m ((k, d) :: rest) = if m = k then some d else rest.get? m := by
  by_cases hm : m = k
  · simp [get?, hm]
  · simp [get?, List.lookup_cons, beq_false_of_ne hm, hm]

theorem put_cons (k n : String) (d e : Entry) (rest : Folder) :
    put n e ((k, d) :: rest) = if k = n then (k, e) :: rest else (k, d) :: rest.put n e := rfl

theorem get?_put (f : Folder) (n m : String) (e : Entry) :
    (f.put n e).get? m = if m = n then some e else f.get? m := by
  induction f with
  | nil => exact get?_cons n m e []
  | cons entry rest ih =>
      obtain ⟨k, d⟩ := entry
      rw [put_cons]
      by_cases hk : k = n
      · subst hk
        by_cases hm : m = k
        · simp [get?_cons, hm]
        · simp [get?_cons, hm]
      · by_cases hm : m = k
        · subst hm
          simp [get?_cons, hk]
        · simp [get?_cons, hk, hm, ih]

theorem get?_put_self (f : Folder) (n : String) (e : Entry) : (f.put n e).get? n = some e := by
  simp [get?_put]

theorem get?_put_of_ne (f : Folder) (e : Entry) (h : m ≠ n) : (f.put n e).get? m = f.get? m := by
  simp [get?_put, h]

/-- What is there already is not changed by putting it there. -/
theorem put_of_get? (h : f.get? n = some e) : f.put n e = f := by
  induction f with
  | nil => cases h
  | cons entry rest ih =>
      obtain ⟨k, d⟩ := entry
      rw [get?_cons] at h
      rw [put_cons]
      by_cases hk : k = n
      · subst hk
        have hd : d = e := by simpa using h
        simp [hd]
      · rw [if_neg (Ne.symm hk)] at h
        rw [if_neg hk, ih h]

theorem put_put (f : Folder) (n : String) (d e : Entry) : (f.put n d).put n e = f.put n e := by
  induction f with
  | nil => simp [put]
  | cons entry rest ih =>
      obtain ⟨k, c⟩ := entry
      by_cases hk : k = n
      · simp [put, hk]
      · simp [put, hk, ih]

/-- A name that was free is free again when what was put there is taken away. -/
theorem erase_put (h : f.get? n = none) (e : Entry) : (f.put n e).erase n = f := by
  induction f with
  | nil => simp [put, erase]
  | cons entry rest ih =>
      obtain ⟨k, d⟩ := entry
      rw [get?_cons] at h
      by_cases hk : k = n
      · simp [hk] at h
      · rw [if_neg (Ne.symm hk)] at h
        rw [put_cons, if_neg hk, erase, List.filter_cons_of_pos (by simpa using hk)]
        exact congrArg _ (ih h)

/-- The names of a folder are those that it has an entry for. -/
theorem mem_names : n ∈ f.names ↔ (f.get? n).isSome := by
  rw [names, (List.mergeSort_perm _ _).mem_iff]
  induction f with
  | nil => simp [get?]
  | cons entry rest ih =>
      obtain ⟨k, d⟩ := entry
      rw [List.map_cons, List.mem_cons, ih, get?_cons]
      by_cases hn : n = k
      · simp [hn]
      · simp [hn]

theorem map_fst_put (f : Folder) (n : String) (e : Entry) :
    (f.put n e).map Prod.fst =
      if n ∈ f.map Prod.fst then f.map Prod.fst else f.map Prod.fst ++ [n] := by
  induction f with
  | nil => simp [put]
  | cons entry rest ih =>
      obtain ⟨k, d⟩ := entry
      rw [put_cons]
      by_cases hk : k = n
      · simp [hk]
      · rw [if_neg hk, List.map_cons, ih]
        by_cases hn : n ∈ rest.map Prod.fst
        · rw [if_pos hn, if_pos (by simp [List.mem_map.mp hn])]
          rfl
        · have hnot : n ∉ ((k, d) :: rest).map Prod.fst := by
            rw [List.map_cons, List.mem_cons, not_or]
            exact ⟨Ne.symm hk, hn⟩
          rw [if_neg hn, if_neg hnot]
          rfl

theorem mem_names_put : m ∈ (f.put n e).names ↔ m = n ∨ m ∈ f.names := by
  rw [mem_names, mem_names, get?_put]
  by_cases hm : m = n
  · simp [hm]
  · simp [hm]

/-! ## Order of entries -/

/-- The names of a directory are distinct and none is too long. -/
structure IsDirectory (f : Folder) : Prop where
  nodup : (f.map Prod.fst).Nodup
  fits : ∀ name ∈ f.names, fits name

theorem IsDirectory.put (h : IsDirectory f) (hn : Folder.fits n) (e : Entry) :
    IsDirectory (f.put n e) := by
  constructor
  · rw [map_fst_put]
    split
    · exact h.nodup
    · rename_i hnew
      refine List.nodup_append.mpr ⟨h.nodup, by simp, ?_⟩
      intro m hm k hk he
      exact hnew (List.mem_singleton.mp hk ▸ he ▸ hm)
  · intro m hm
    rcases mem_names_put.mp hm with rfl | hm
    · exact hn
    · exact h.fits m hm

theorem get?_eq_some_iff (h : (f.map Prod.fst).Nodup) : f.get? n = some e ↔ (n, e) ∈ f := by
  induction f with
  | nil => simp [get?]
  | cons entry rest ih =>
      obtain ⟨k, d⟩ := entry
      obtain ⟨hk, hrest⟩ := List.nodup_cons.mp h
      rw [get?_cons, List.mem_cons, Prod.mk.injEq]
      by_cases hn : n = k
      · subst hn
        have hmem : (n, e) ∉ rest := fun hmem => hk (List.mem_map.mpr ⟨_, hmem, rfl⟩)
        simp [hmem, eq_comm]
      · simp [hn, ih hrest]

/-- An entry does not depend on the order in which a directory is listed. -/
theorem get?_eq_of_perm {f' : Folder} (h : f'.Perm f) (hnodup : (f.map Prod.fst).Nodup) :
    f'.get? n = f.get? n := by
  have hnodup' : (f'.map Prod.fst).Nodup := (h.map Prod.fst).nodup_iff.mpr hnodup
  refine Option.ext fun e => ?_
  rw [get?_eq_some_iff hnodup', get?_eq_some_iff hnodup, h.mem_iff]

theorem names_pairwise (f : Folder) : f.names.Pairwise (· ≤ ·) :=
  pairwise_mergeSort_name id (f.map Prod.fst)

theorem names_eq_of_perm {f' : Folder} (h : f'.Perm f) : f'.names = f.names := by
  have hperm : f'.names.Perm f.names :=
    (List.mergeSort_perm _ _).trans ((h.map Prod.fst).trans (List.mergeSort_perm _ _).symm)
  exact eq_of_perm_of_pairwise hperm f'.names_pairwise f.names_pairwise

/-! ## Folders within folders -/

variable {here : List String}

theorem at?_cons (f : Folder) (n : String) (rest : List String) :
    f.at? (n :: rest) = match f.get? n with
      | some (.folder inner) => at? inner rest
      | some e => if rest.isEmpty then some e else none
      | none => none := rfl

/-- A folder within another one is reached through folders. -/
theorem at?_cons_eq_folder {rest : List String} (h : root.at? (n :: rest) = some (.folder f)) :
    ∃ inner, root.get? n = some (.folder inner) ∧ at? inner rest = some (.folder f) := by
  rw [at?_cons] at h
  cases hg : root.get? n with
  | none => simp [hg] at h
  | some e =>
      cases e with
      | folder inner => exact ⟨inner, rfl, by simpa [hg] using h⟩
      | file content => simp [hg] at h
      | link target => simp [hg] at h

theorem modify_cons {change : Folder → Folder} {inner : Folder} {rest : List String}
    (h : root.get? n = some (.folder inner)) :
    modify change (n :: rest) root = root.put n (.folder (modify change rest inner)) := by
  simp [modify, h]

/-- The folder that was changed is found where it was. -/
theorem at?_modify (change : Folder → Folder) (h : root.at? here = some (.folder f)) :
    at? (root.modify change here) here = some (.folder (change f)) := by
  induction here generalizing root with
  | nil =>
      obtain rfl : root = f := by simpa [at?] using h
      rfl
  | cons n rest ih =>
      obtain ⟨inner, hget, hat⟩ := at?_cons_eq_folder h
      rw [modify_cons hget, at?_cons, get?_put_self]
      exact ih hat

/-- Putting a folder in the place where it is changes nothing. -/
theorem modify_self (h : root.at? here = some (.folder f)) :
    root.modify (fun _ => f) here = root := by
  induction here generalizing root with
  | nil =>
      obtain rfl : root = f := by simpa [at?] using h
      rfl
  | cons n rest ih =>
      obtain ⟨inner, hget, hat⟩ := at?_cons_eq_folder h
      rw [modify_cons hget, ih hat, put_of_get? hget]

/-- Of two changes of a folder to a fixed one the last counts. -/
theorem modify_modify {f₁ f₂ : Folder} (h : root.at? here = some (.folder f)) :
    modify (fun _ => f₂) here (root.modify (fun _ => f₁) here) =
      root.modify (fun _ => f₂) here := by
  induction here generalizing root with
  | nil => rfl
  | cons n rest ih =>
      obtain ⟨inner, hget, hat⟩ := at?_cons_eq_folder h
      rw [modify_cons hget, modify_cons (get?_put_self _ _ _), put_put, ih hat, modify_cons hget]

end ServiceContract.Folder
