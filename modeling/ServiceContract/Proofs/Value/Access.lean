import ServiceContract.Value

/-!
# Reading values

What stands in a value behind a path of keys.
-/

namespace ServiceContract.Value

/-- The value at the end of a path. -/
def at? (v : Value) : List String → Option Value
  | [] => some v
  | key :: rest => (v.entries?.bind (Entries.get? key)).bind (at? · rest)

/-- The text that a value is. -/
def text? : Value → Option String
  | text s => some s
  | _ => none

/-- The items of a list. -/
def items : Value → List Value
  | list items => items
  | _ => []

/-- The members of a map. -/
def members (v : Value) : Entries := v.entries?.getD []

/-- The text at the end of a path. -/
def textAt? (v : Value) (path : List String) : Option String := (v.at? path).bind text?

/-- The items of the list at the end of a path. -/
def itemsAt (v : Value) (path : List String) : List Value := (v.at? path).elim [] items

/-- The members of the map at the end of a path. -/
def membersAt (v : Value) (path : List String) : Entries := (v.at? path).elim [] members

@[simp] theorem text?_text (s : String) : (text s).text? = some s := rfl

@[simp] theorem bind_text?_map_text (o : Option String) : (o.map text).bind text? = o := by
  cases o <;> rfl

@[simp] theorem items_list (vs : List Value) : (list vs).items = vs := rfl

@[simp] theorem members_map (entries : Entries) : (map entries).members = entries := rfl

@[simp] theorem at?_nil (v : Value) : v.at? [] = some v := rfl

/-- A path is followed one part after the other. -/
theorem at?_append (v : Value) (front back : List String) :
    v.at? (front ++ back) = (v.at? front).bind (·.at? back) := by
  induction front generalizing v with
  | nil => rfl
  | cons key rest ih =>
      rw [List.cons_append, at?, at?]
      cases v.entries?.bind (Entries.get? key) with
      | none => rfl
      | some w => exact ih w

@[simp] theorem at?_text (s key : String) (path : List String) :
    (text s).at? (key :: path) = none := rfl

@[simp] theorem at?_map_nil (key : String) (path : List String) :
    (map []).at? (key :: path) = none := rfl

@[simp] theorem at?_map_cons (k key : String) (v : Value) (rest : List (String × Value))
    (path : List String) :
    (map ((k, v) :: rest)).at? (key :: path) =
      if key = k then v.at? path else (map rest).at? (key :: path) := by
  by_cases hk : key = k
  · simp [at?, entries?, Entries.get?, hk]
  · simp [at?, entries?, Entries.get?, List.lookup_cons, beq_false_of_ne hk, hk]

@[simp] theorem record_nil : record [] = map [] := rfl

/-- A member that is absent is not written. -/
@[simp] theorem at?_record_cons (k key : String) (o : Option Value)
    (rest : List (String × Option Value)) (path : List String) :
    (record ((k, o) :: rest)).at? (key :: path) =
      if key = k then o.elim ((record rest).at? (key :: path)) (·.at? path)
      else (record rest).at? (key :: path) := by
  cases o with
  | none =>
      have hskip : record ((k, none) :: rest) = record rest := by simp [record]
      simp [hskip]
  | some v =>
      have hcons : record ((k, some v) :: rest) =
          map ((k, v) :: rest.filterMap fun member => member.2.map (member.1, ·)) := by
        simp [record]
      rw [hcons, at?_map_cons]
      rfl

/-! ## Presence -/

/-- Something stands at the end of a path. -/
def Has (v : Value) (path : List String) : Prop := (v.at? path).isSome = true

@[simp] theorem has_nil (v : Value) : v.Has [] := rfl

@[simp] theorem has_map_nil (key : String) (path : List String) :
    ¬ (map []).Has (key :: path) := nofun

@[simp] theorem has_map_cons (k key : String) (v : Value) (rest : List (String × Value))
    (path : List String) :
    (map ((k, v) :: rest)).Has (key :: path) ↔
      if key = k then v.Has path else (map rest).Has (key :: path) := by
  unfold Has
  rw [at?_map_cons]
  split <;> rfl

/-- Under the key of an absent member of a record stands what another member puts there. -/
@[simp] theorem has_record_cons (k key : String) (o : Option Value)
    (rest : List (String × Option Value)) (path : List String) :
    (record ((k, o) :: rest)).Has (key :: path) ↔
      if key = k then (∃ v, o = some v ∧ v.Has path) ∨ o = none ∧ (record rest).Has (key :: path)
      else (record rest).Has (key :: path) := by
  unfold Has
  rw [at?_record_cons]
  split
  · cases o <;> simp
  · rfl

/-! ## Records with the same keys -/

theorem at?_record_of_notMem {key : String} {members : List (String × Option Value)}
    (h : key ∉ members.map Prod.fst) (path : List String) :
    (record members).at? (key :: path) = none := by
  induction members with
  | nil => rfl
  | cons m rest ih =>
      obtain ⟨k, o⟩ := m
      rw [List.map_cons, List.mem_cons, not_or] at h
      rw [at?_record_cons, if_neg h.1, ih h.2]

/-- Records with the same first key are equal if its values are, and all other members. -/
theorem record_cons_eq_iff {key : String} {o p : Option Value}
    {ms ns : List (String × Option Value)} (hm : key ∉ ms.map Prod.fst)
    (hn : key ∉ ns.map Prod.fst) :
    record ((key, o) :: ms) = record ((key, p) :: ns) ↔ o = p ∧ record ms = record ns := by
  constructor
  · intro h
    have hvalue : o = p := by
      have hat := congrArg (at? · [key]) h
      simp only [at?_record_cons, if_true, at?_record_of_notMem hm, at?_record_of_notMem hn,
        at?_nil] at hat
      cases o with
      | none => cases p <;> simp at hat ⊢
      | some v =>
          cases p with
          | none => simp at hat
          | some w => simpa using hat
    refine ⟨hvalue, ?_⟩
    subst hvalue
    cases o <;> simpa [record] using h
  · rintro ⟨rfl, h⟩
    cases o <;> simpa [record] using h

end ServiceContract.Value
