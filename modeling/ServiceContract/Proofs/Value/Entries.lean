import Mathlib.Data.List.Nodup
import ServiceContract.Value

/-! # Members of maps -/

namespace ServiceContract.Entries

variable {es : Entries} {ms : List (String × Value)} {key other : String} {v : Value}

theorem mem_of_mem_put {e : String × Value} (h : e ∈ es.put key v) : e = (key, v) ∨ e ∈ es := by
  induction es with
  | nil => exact .inl (List.mem_singleton.mp h)
  | cons first rest ih =>
      obtain ⟨k, w⟩ := first
      by_cases hk : k = key
      · rw [put, if_pos hk] at h
        rcases List.mem_cons.mp h with rfl | h
        · exact .inl (by rw [hk])
        · exact .inr (List.mem_cons_of_mem _ h)
      · rw [put, if_neg hk] at h
        rcases List.mem_cons.mp h with rfl | h
        · exact .inr List.mem_cons_self
        · exact (ih h).imp_right (List.mem_cons_of_mem _)

theorem mem_keys_put : other ∈ (es.put key v).keys ↔ other = key ∨ other ∈ es.keys := by
  induction es with
  | nil => simp [put, keys]
  | cons first rest ih =>
      obtain ⟨k, w⟩ := first
      by_cases hk : k = key
      · simp [put, keys, hk]
      · rw [put, if_neg hk]
        simp only [keys, List.map_cons, List.mem_cons] at ih ⊢
        rw [ih, or_left_comm]

/-- A new key comes last. -/
theorem put_of_notMem (h : key ∉ es.keys) : es.put key v = es ++ [(key, v)] := by
  induction es with
  | nil => rfl
  | cons first rest ih =>
      obtain ⟨k, w⟩ := first
      obtain ⟨hk, hrest⟩ := not_or.mp (mt List.mem_cons.mpr h)
      rw [put, if_neg (Ne.symm hk), ih hrest, List.cons_append]

theorem get?_put : (es.put key v).get? other = if other = key then some v else es.get? other := by
  induction es with
  | nil =>
      by_cases hk : other = key
      · simp [put, get?, hk]
      · simp [put, get?, List.lookup_cons, beq_false_of_ne hk, hk]
  | cons first rest ih =>
      obtain ⟨k, w⟩ := first
      unfold put
      by_cases hk : k = key
      · subst hk
        by_cases ho : other = k
        · simp [get?, ho]
        · simp [get?, List.lookup_cons, beq_false_of_ne ho, ho]
      · rw [if_neg hk]
        by_cases ho : other = k
        · subst ho
          simp [get?, hk]
        · have hskip : ∀ more : Entries, Entries.get? other ((k, w) :: more) = more.get? other := by
            intro more
            simp [get?, List.lookup_cons, beq_false_of_ne ho]
          rw [hskip, hskip, ih]

/-- Under a key stands the last value that was given for it. -/
theorem get?_ofList_of_last {before after : List (String × Value)}
    (h : ∀ m ∈ after, m.1 ≠ key) : (ofList (before ++ (key, v) :: after)).get? key = some v := by
  have hfold : ∀ done : Entries, done.get? key = some v →
      (after.foldl (fun done m => done.put m.1 m.2) done).get? key = some v := by
    induction after with
    | nil => exact fun _ hdone => hdone
    | cons m rest ih =>
        obtain ⟨hm, hrest⟩ := List.forall_mem_cons.mp h
        intro done hdone
        refine ih hrest _ ?_
        rw [get?_put, if_neg (Ne.symm hm), hdone]
  rw [ofList, List.foldl_append, List.foldl_cons]
  exact hfold _ (by rw [get?_put, if_pos rfl])

/-- Under a key that no other member has stands its member. -/
theorem get?_of_mem (hd : es.keys.Nodup) (h : (key, v) ∈ es) : es.get? key = some v := by
  induction es with
  | nil => cases h
  | cons first rest ih =>
      obtain ⟨k, w⟩ := first
      simp only [keys, List.map_cons, List.nodup_cons] at hd
      rcases List.mem_cons.mp h with heq | hmem
      · cases heq
        simp [get?]
      · have hne : key ≠ k := by
          rintro rfl
          exact hd.1 (List.mem_map.mpr ⟨_, hmem, rfl⟩)
        have hrest : Entries.get? key rest = some v := ih hd.2 hmem
        simpa [get?, List.lookup_cons, beq_false_of_ne hne] using hrest

theorem mem_of_get? (h : es.get? key = some v) : (key, v) ∈ es := by
  obtain ⟨before, after, rfl, -⟩ := List.lookup_eq_some_iff.mp h
  exact List.mem_append_right before List.mem_cons_self

theorem mem_of_mem_ofList {e : String × Value} (h : e ∈ ofList ms) : e ∈ ms := by
  have hfold : ∀ (more : List (String × Value)) (done : Entries),
      e ∈ more.foldl (fun done m => done.put m.1 m.2) done → e ∈ done ∨ e ∈ more := by
    intro more
    induction more with
    | nil => exact fun done hmem => .inl hmem
    | cons m rest ih =>
        intro done hmem
        rcases ih _ hmem with hmem | hmem
        · rcases mem_of_mem_put hmem with rfl | hmem
          · exact .inr List.mem_cons_self
          · exact .inl hmem
        · exact .inr (List.mem_cons_of_mem _ hmem)
  exact (hfold ms [] h).resolve_left List.not_mem_nil

/-- Members with distinct keys are all there, in their order. -/
theorem ofList_of_nodup (h : (ms.map Prod.fst).Nodup) : ofList ms = ms := by
  have hfold : ∀ (more : List (String × Value)) (done : Entries),
      (done.keys ++ more.map Prod.fst).Nodup →
        more.foldl (fun done m => done.put m.1 m.2) done = done ++ more := by
    intro more
    induction more with
    | nil => exact fun done _ => (List.append_nil done).symm
    | cons m rest ih =>
        intro done hnodup
        have hnew : m.1 ∉ done.keys := by
          intro hmem
          exact (List.nodup_append.mp hnodup).2.2 _ hmem _ (by simp) rfl
        have hkeys : (done.put m.1 m.2).keys = done.keys ++ [m.1] := by
          rw [put_of_notMem hnew, keys, List.map_append, ← keys]
          rfl
        rw [List.foldl_cons, ih _ (by rw [hkeys]; simpa using hnodup), put_of_notMem hnew]
        simp
  exact hfold ms [] (by simpa [keys] using h)

end ServiceContract.Entries
