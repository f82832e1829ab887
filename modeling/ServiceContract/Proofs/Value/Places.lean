import ServiceContract.Value

/-!
# What stands where in a value

A value is reached from another by a path of keys and positions.
-/

namespace ServiceContract.Value

/-- A step into a value: to a member of a map, or to an item of a list. -/
inductive PathStep where
  | member (key : String)
  | item (position : Nat)
deriving DecidableEq

/-- A value stands in another at the end of a path. -/
inductive StandsAt (w : Value) : List PathStep → Value → Prop
  | here : StandsAt w [] w
  | member {key : String} {v : Value} {entries : List (String × Value)} {path : List PathStep}
      (hmem : (key, v) ∈ entries) (h : StandsAt w path v) :
      StandsAt w (.member key :: path) (.map entries)
  | item {position : Nat} {v : Value} {items : List Value} {path : List PathStep}
      (hitem : items[position]? = some v) (h : StandsAt w path v) :
      StandsAt w (.item position :: path) (.list items)

/-- Something holds of everything that stands in a value, and of the value itself. -/
def Everywhere (P : Value → Prop) (v : Value) : Prop := ∀ path w, StandsAt w path v → P w

section

variable {P : Value → Prop}

theorem Everywhere.self {v : Value} (h : Everywhere P v) : P v := h [] v .here

theorem everywhere_map_iff {entries : List (String × Value)} :
    Everywhere P (.map entries) ↔ P (.map entries) ∧ ∀ e ∈ entries, Everywhere P e.2 := by
  constructor
  · intro h
    exact ⟨h.self, fun e he path w hw => h (.member e.1 :: path) w (.member he hw)⟩
  · rintro ⟨hself, hentries⟩ path w hw
    cases hw with
    | here => exact hself
    | member hmem hw => exact hentries _ hmem _ w hw

theorem everywhere_list_iff {items : List Value} :
    Everywhere P (.list items) ↔ P (.list items) ∧ ∀ v ∈ items, Everywhere P v := by
  constructor
  · intro h
    refine ⟨h.self, fun v hv path w hw => ?_⟩
    obtain ⟨n, hn⟩ := List.mem_iff_getElem?.mp hv
    exact h (.item n :: path) w (.item hn hw)
  · rintro ⟨hself, hitems⟩ path w hw
    cases hw with
    | here => exact hself
    | item hitem hw => exact hitems _ (List.mem_of_getElem? hitem) _ w hw

/-- In a value with no parts stands only itself. -/
theorem everywhere_of_parts {v : Value} (hitems : ∀ items, v ≠ .list items)
    (hentries : ∀ entries, v ≠ .map entries) : Everywhere P v ↔ P v := by
  refine ⟨Everywhere.self, fun hself path w hw => ?_⟩
  cases hw with
  | here => exact hself
  | member hmem hw => exact absurd rfl (hentries _)
  | item hitem hw => exact absurd rfl (hitems _)

@[simp] theorem everywhere_null_iff : Everywhere P .null ↔ P .null :=
  everywhere_of_parts nofun nofun

@[simp] theorem everywhere_bool_iff {b : Bool} : Everywhere P (.bool b) ↔ P (.bool b) :=
  everywhere_of_parts nofun nofun

@[simp] theorem everywhere_int_iff {n : Int} : Everywhere P (.int n) ↔ P (.int n) :=
  everywhere_of_parts nofun nofun

@[simp] theorem everywhere_float_iff {x : Numeral.Double} :
    Everywhere P (.float x) ↔ P (.float x) :=
  everywhere_of_parts nofun nofun

@[simp] theorem everywhere_text_iff {s : String} : Everywhere P (.text s) ↔ P (.text s) :=
  everywhere_of_parts nofun nofun

end

/-! ## Nulls -/

/-- No null stands in a value. -/
def NullFree (v : Value) : Prop := Everywhere (· ≠ .null) v

@[simp] theorem nullFree_bool (b : Bool) : (bool b).NullFree := everywhere_bool_iff.mpr nofun

@[simp] theorem nullFree_int (n : Int) : (int n).NullFree := everywhere_int_iff.mpr nofun

@[simp] theorem nullFree_float (x : Numeral.Double) : (float x).NullFree :=
  everywhere_float_iff.mpr nofun

@[simp] theorem nullFree_text (s : String) : (text s).NullFree := everywhere_text_iff.mpr nofun

@[simp] theorem nullFree_list {items : List Value} :
    (list items).NullFree ↔ ∀ v ∈ items, v.NullFree := by
  simp [NullFree, everywhere_list_iff]

@[simp] theorem nullFree_map {entries : List (String × Value)} :
    (map entries).NullFree ↔ ∀ e ∈ entries, e.2.NullFree := by
  simp [NullFree, everywhere_map_iff]

/-- What is absent from a record is no null in it. -/
@[simp] theorem nullFree_record {members : List (String × Option Value)} :
    (record members).NullFree ↔ ∀ m ∈ members, ∀ v ∈ m.2, v.NullFree := by
  simp only [record, nullFree_map, List.mem_filterMap, Option.map_eq_some_iff]
  constructor
  · intro h m hm v hv
    exact h (m.1, v) ⟨m, hm, v, hv, rfl⟩
  · rintro h e ⟨m, hm, v, hv, rfl⟩
    exact h m hm v hv

/-- The rests of the places that begin with a step. -/
def placesBehind (step : PathStep) (places : List PathStep → Prop) : List PathStep → Prop :=
  fun rest => places (step :: rest)

/-- Nulls stand in a value only behind certain places. -/
def NullsBehind (places : List PathStep → Prop) (v : Value) : Prop :=
  ∀ path, StandsAt .null path v → ∃ place, places place ∧ place <+: path

section

variable {places : List PathStep → Prop} {v : Value}

theorem NullFree.nullsBehind (h : v.NullFree) : v.NullsBehind places :=
  fun path hpath => absurd rfl (h path _ hpath)

/-- Behind a place of its own a value may hold anything. -/
theorem nullsBehind_of_nil (h : places []) : v.NullsBehind places :=
  fun _ _ => ⟨[], h, List.nil_prefix⟩

theorem nullsBehind_map {entries : List (String × Value)}
    (h : ∀ e ∈ entries, e.2.NullsBehind (placesBehind (.member e.1) places)) :
    (map entries).NullsBehind places := by
  intro path hpath
  cases hpath with
  | member hmem hnull =>
      obtain ⟨place, hplace, hprefix⟩ := h _ hmem _ hnull
      exact ⟨_, hplace, List.cons_prefix_cons.mpr ⟨rfl, hprefix⟩⟩

theorem nullsBehind_record {members : List (String × Option Value)}
    (h : ∀ m ∈ members, ∀ v ∈ m.2, v.NullsBehind (placesBehind (.member m.1) places)) :
    (record members).NullsBehind places := by
  refine nullsBehind_map fun e he => ?_
  obtain ⟨m, hm, hsome⟩ := List.mem_filterMap.mp he
  obtain ⟨v, hv, rfl⟩ := Option.map_eq_some_iff.mp hsome
  exact h m hm v hv

end

end ServiceContract.Value
