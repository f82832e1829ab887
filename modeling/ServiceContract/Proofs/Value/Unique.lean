import ServiceContract.Proofs.Value.Entries

/-!
# Values whose keys count once

Making every key of a value count once makes the keys of its maps distinct, and leaves nothing to be
done again.
-/

namespace ServiceContract

namespace Entries

theorem nodup_keys_put {es : Entries} {key : String} {v : Value} (h : es.keys.Nodup) :
    (es.put key v).keys.Nodup := by
  induction es with
  | nil => exact List.nodup_singleton key
  | cons first rest ih =>
      obtain ⟨k, w⟩ := first
      obtain ⟨hk, hrest⟩ := List.nodup_cons.mp h
      unfold put
      by_cases heq : k = key
      · rw [if_pos heq]
        exact h
      · rw [if_neg heq]
        refine List.nodup_cons.mpr ⟨?_, ih hrest⟩
        intro hmem
        exact (mem_keys_put.mp hmem).elim heq hk

/-- A key that is given several times is there once. -/
theorem nodup_keys_ofList (ms : List (String × Value)) : (ofList ms).keys.Nodup := by
  have hfold : ∀ done : Entries, done.keys.Nodup →
      (ms.foldl (fun done m => done.put m.1 m.2) done).keys.Nodup := by
    induction ms with
    | nil => exact fun _ hdone => hdone
    | cons m rest ih => exact fun done hdone => ih _ (nodup_keys_put hdone)
  exact hfold [] List.nodup_nil

theorem ofList_ofList (ms : List (String × Value)) : ofList (ofList ms) = ofList ms :=
  ofList_of_nodup (nodup_keys_ofList ms)

end Entries

namespace Value

theorem uniqueEntries_eq_map (es : List (String × Value)) :
    uniqueEntries es = es.map fun e => (e.1, e.2.unique) := by
  induction es with
  | nil => rfl
  | cons e rest ih => rw [uniqueEntries, ih, List.map_cons]

/-- Members whose values are unique stay as they are. -/
theorem uniqueEntries_eq_self {es : List (String × Value)} (h : ∀ e ∈ es, e.2.unique = e.2) :
    uniqueEntries es = es := by
  have hsame : ∀ e ∈ es, (e.1, e.2.unique) = id e := fun e he => Prod.ext rfl (h e he)
  rw [uniqueEntries_eq_map, List.map_congr_left hsame, List.map_id]

mutual

/-- What counts once is not changed again. -/
theorem unique_unique : ∀ v : Value, v.unique.unique = v.unique
  | .list items => by rw [unique, unique, uniqueItems_uniqueItems items]
  | .map entries => by
    have hentries : ∀ e ∈ Entries.ofList (uniqueEntries entries), e.2.unique = e.2 :=
      fun e he => unique_of_mem_uniqueEntries entries e (Entries.mem_of_mem_ofList he)
    rw [unique, unique, uniqueEntries_eq_self hentries, Entries.ofList_ofList]
  | .null | .bool _ | .int _ | .float _ | .text _ => rfl
termination_by structural v => v

theorem uniqueItems_uniqueItems : ∀ vs : List Value,
    uniqueItems (uniqueItems vs) = uniqueItems vs
  | [] => rfl
  | v :: rest => by
    rw [uniqueItems, uniqueItems, unique_unique v, uniqueItems_uniqueItems rest]
termination_by structural vs => vs

theorem unique_of_mem_uniqueEntries : ∀ (es : List (String × Value)), ∀ e ∈ uniqueEntries es,
    e.2.unique = e.2
  | [], _, he => nomatch he
  | (k, v) :: rest, e, he => by
    rcases List.mem_cons.mp he with rfl | he
    · exact unique_unique v
    · exact unique_of_mem_uniqueEntries rest e he
termination_by structural es => es

end

theorem unique_ne_null {v : Value} (h : v ≠ .null) : v.unique ≠ .null := by
  cases v with
  | null => exact absurd rfl h
  | _ => simp [unique]

theorem entriesReadable_iff {es : List (String × Value)} :
    entriesReadable es = true ↔ ∀ e ∈ es, e.2.isReadable = true := by
  induction es with
  | nil => simp [entriesReadable]
  | cons e rest ih => simp [entriesReadable, ih]

mutual

/-- What could be read can be read where every key counts once. -/
theorem isReadable_unique : ∀ v : Value, v.isReadable = true → v.unique.isReadable = true
  | .list items, h => itemsReadable_unique items h
  | .map entries, h => by
    have hentries := entriesReadable_iff.mp (entriesReadable_unique entries h)
    exact entriesReadable_iff.mpr fun e he => hentries e (Entries.mem_of_mem_ofList he)
  | .null, _ | .bool _, _ | .int _, _ | .text _, _ => rfl
  | .float _, h => h
termination_by structural v => v

theorem itemsReadable_unique : ∀ vs : List Value, itemsReadable vs = true →
    itemsReadable (uniqueItems vs) = true
  | [], _ => rfl
  | v :: rest, h => by
    rw [itemsReadable, Bool.and_eq_true] at h
    rw [uniqueItems, itemsReadable, Bool.and_eq_true]
    exact ⟨isReadable_unique v h.1, itemsReadable_unique rest h.2⟩
termination_by structural vs => vs

theorem entriesReadable_unique : ∀ es : List (String × Value), entriesReadable es = true →
    entriesReadable (uniqueEntries es) = true
  | [], _ => rfl
  | (k, v) :: rest, h => by
    rw [entriesReadable, Bool.and_eq_true] at h
    rw [uniqueEntries, entriesReadable, Bool.and_eq_true]
    exact ⟨isReadable_unique v h.1, entriesReadable_unique rest h.2⟩
termination_by structural es => es

end

end Value

end ServiceContract
