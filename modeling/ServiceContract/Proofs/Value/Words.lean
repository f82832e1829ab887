import ServiceContract.Proofs.Value.Entries

/-! # Values without numbers -/

namespace ServiceContract.Value

/-- A value without numbers, whose lists and maps stand at most so many levels deep. -/
inductive IsWordy : (depth : Nat) → Value → Prop where
  | null {d : Nat} : IsWordy d .null
  | bool {d : Nat} (b : Bool) : IsWordy d (.bool b)
  | text {d : Nat} (s : String) : IsWordy d (.text s)
  | list {d : Nat} {items : List Value} (h : ∀ v ∈ items, IsWordy d v) :
    IsWordy (d + 1) (.list items)
  | map {d : Nat} {entries : Entries} (h : ∀ e ∈ entries, IsWordy d e.2) :
    IsWordy (d + 1) (.map entries)

namespace IsWordy

variable {v : Value} {d d' : Nat}

theorem mono (h : v.IsWordy d) (hd : d ≤ d') : v.IsWordy d' := by
  induction h generalizing d' with
  | null => exact .null
  | bool b => exact .bool b
  | text s => exact .text s
  | list h ih =>
      obtain ⟨d', rfl⟩ := Nat.exists_eq_add_of_lt hd
      exact .list fun w hw => ih w hw (by omega)
  | map h ih =>
      obtain ⟨d', rfl⟩ := Nat.exists_eq_add_of_lt hd
      exact .map fun e he => ih e he (by omega)

theorem record {members : List (String × Option Value)}
    (h : ∀ m ∈ members, ∀ w ∈ m.2, IsWordy d w) : (Value.record members).IsWordy (d + 1) := by
  refine .map fun e he => ?_
  obtain ⟨m, hm, hmap⟩ := List.mem_filterMap.mp he
  obtain ⟨w, hw, rfl⟩ := Option.map_eq_some_iff.mp hmap
  exact h m hm w hw

end IsWordy

end ServiceContract.Value
