import Mathlib.Data.List.Basic
import Mathlib.Data.List.Nodup
import Mathlib.Logic.Relation
import ServiceContract.Proofs.Outcome
import ServiceContract.TypeGraph.Registry

/-! # How a registry grows -/

namespace ServiceContract.Registry

/-! ## Outcomes of the two operations -/

theorem insert_eq_ok {r r' : Registry} {name : String} {h : Handle} :
    r.insert name = .ok (h, r') ↔
      Text.isBlank name = false ∧ r.lookup name = none ∧ h = ⟨r.size⟩ ∧
        r' = ⟨r.types ++ [⟨name, []⟩], (name, ⟨r.size⟩) :: r.index⟩ := by
  unfold insert
  cases hb : Text.isBlank name with
  | true => simp
  | false =>
      cases hl : r.lookup name with
      | some old => simp
      | none => simp [eq_comm]

theorem dataType_eq_ok {r : Registry} {h : Handle} {t : DataType} :
    r.dataType h = .ok t ↔ r.get? h = some t := by
  unfold dataType
  cases r.get? h <;> simp

theorem nameOf_eq_ok {r : Registry} {h : Handle} {name : String} :
    r.nameOf h = .ok name ↔ ∃ t, r.get? h = some t ∧ t.name = name := by
  simp only [nameOf, map_eq_ok, dataType_eq_ok]

theorem resolve_eq_ok {r : Registry} {name : String} {h : Handle} :
    r.resolve name = .ok h ↔ r.lookup name = some h := by
  unfold resolve
  cases r.lookup name <;> simp

theorem admits_eq_ok {r : Registry} {field : Field} :
    r.admits field = .ok () ↔
      ∀ target, field.type = .named target → (r.get? target).isSome := by
  unfold admits
  cases ht : field.type with
  | primitive p => simp
  | named target =>
      cases hg : r.get? target with
      | none => simp [dataType, hg]
      | some t => simp [dataType, hg]

theorem pushField_eq_ok {r r' : Registry} {h : Handle} {field : Field} :
    r.pushField h field = .ok r' ↔
      (∀ target, field.type = .named target → (r.get? target).isSome) ∧
        ∃ t, r.get? h = some t ∧
          r' = { r with
            types := r.types.set h.index { t with fields := t.fields ++ [field] } } := by
  rw [← admits_eq_ok]
  unfold pushField
  cases ha : r.admits field with
  | error e => simp [bind, Except.bind]
  | ok u =>
      cases hg : r.get? h with
      | none => simp [dataType, hg, bind, Except.bind]
      | some t => simp [dataType, hg, bind, Except.bind, pure, Except.pure, eq_comm]

/-! ## What later registries keep -/

/-- Every handle still denotes the type of the same name, whose fields have only been added to. -/
def Extends (r r' : Registry) : Prop :=
  ∀ h t, r.get? h = some t → ∃ t', r'.get? h = some t' ∧ t'.name = t.name ∧ t.fields <+: t'.fields

theorem Extends.refl (r : Registry) : r.Extends r :=
  fun _ t ht => ⟨t, ht, rfl, List.prefix_refl _⟩

theorem Extends.trans {r₁ r₂ r₃ : Registry} (h₁ : r₁.Extends r₂) (h₂ : r₂.Extends r₃) :
    r₁.Extends r₃ := by
  intro h t ht
  obtain ⟨t₂, ht₂, hname₂, hfields₂⟩ := h₁ h t ht
  obtain ⟨t₃, ht₃, hname₃, hfields₃⟩ := h₂ h t₂ ht₂
  exact ⟨t₃, ht₃, hname₃.trans hname₂, hfields₂.trans hfields₃⟩

theorem Extends.isSome {r r' : Registry} (he : r.Extends r') {h : Handle}
    (hs : (r.get? h).isSome) : (r'.get? h).isSome := by
  obtain ⟨t, ht⟩ := Option.isSome_iff_exists.mp hs
  obtain ⟨t', ht', _⟩ := he h t ht
  simp [ht']

/-- The handle of a new type is the one place that was free before. -/
theorem get?_append {r : Registry} {new : DataType} {index : List (String × Handle)}
    (h : Handle) :
    (⟨r.types ++ [new], index⟩ : Registry).get? h =
      if h = ⟨r.size⟩ then some new else r.get? h := by
  obtain ⟨i⟩ := h
  simp only [get?, size, Handle.mk.injEq]
  by_cases hi : i = r.types.length
  · simp [hi]
  · rw [if_neg hi]
    by_cases hlt : i < r.types.length
    · exact List.getElem?_append_left hlt
    · rw [List.getElem?_eq_none (by simp; omega), List.getElem?_eq_none (by omega)]

/-- No type is found at the handle that a new type will get. -/
theorem get?_size (r : Registry) : r.get? ⟨r.size⟩ = none := by simp [get?, size]

/-- A newly indexed name comes before the names indexed earlier. -/
theorem lookup_cons {r : Registry} {types : List DataType} {name : String} {h : Handle}
    (n : String) :
    (⟨types, (name, h) :: r.index⟩ : Registry).lookup n =
      if n = name then some h else r.lookup n := by
  by_cases hn : n = name
  · simp [lookup, hn]
  · have hbeq : (n == name) = false := beq_false_of_ne hn
    simp [lookup, List.lookup_cons, hn, hbeq]

/-- A new type is found under its name. -/
theorem lookup_of_insert {r r' : Registry} {name : String} {h : Handle}
    (hi : r.insert name = .ok (h, r')) : r'.lookup name = some h := by
  obtain ⟨_, _, rfl, rfl⟩ := insert_eq_ok.mp hi
  rw [lookup_cons, if_pos rfl]

theorem extends_insert {r r' : Registry} {name : String} {h : Handle}
    (hi : r.insert name = .ok (h, r')) : r.Extends r' := by
  obtain ⟨_, _, _, rfl⟩ := insert_eq_ok.mp hi
  intro k t ht
  have hk : k ≠ ⟨r.size⟩ := by
    rintro rfl
    rw [get?_size] at ht
    cases ht
  exact ⟨t, by rw [get?_append, if_neg hk, ht], rfl, List.prefix_refl _⟩

/-- Adding a field replaces one type by itself with that field behind the others. -/
theorem get?_set {r : Registry} {h k : Handle} {t : DataType} (new : DataType)
    (hg : r.get? h = some t) :
    ({ r with types := r.types.set h.index new } : Registry).get? k =
      if k = h then some new else r.get? k := by
  have hlt : h.index < r.types.length := (List.getElem?_eq_some_iff.mp hg).1
  unfold get?
  by_cases hk : k = h
  · subst hk
    simp [hlt]
  · have hne : h.index ≠ k.index := by
      intro he
      apply hk
      cases k
      cases h
      simp_all
    simp [hk, List.getElem?_set_ne hne]

theorem extends_pushField {r r' : Registry} {h : Handle} {field : Field}
    (hp : r.pushField h field = .ok r') : r.Extends r' := by
  obtain ⟨_, t, ht, rfl⟩ := pushField_eq_ok.mp hp
  intro k u hu
  rw [get?_set _ ht]
  by_cases hk : k = h
  · subst hk
    obtain rfl : t = u := Option.some.inj (ht.symm.trans hu)
    exact ⟨_, if_pos rfl, rfl, List.prefix_append _ _⟩
  · exact ⟨u, by rw [if_neg hk]; exact hu, rfl, List.prefix_refl _⟩

/-! ## Coherence -/

/-- The names are present and distinct, the index agrees with the types, and no field leads out of
the registry. -/
structure Coherent (r : Registry) : Prop where
  present : ∀ t ∈ r.types, Text.isBlank t.name = false
  distinct : (r.types.map (·.name)).Nodup
  lookup_iff : ∀ name h, r.lookup name = some h ↔ ∃ t, r.get? h = some t ∧ t.name = name
  closed : ∀ t ∈ r.types, ∀ field ∈ t.fields, ∀ target,
    field.type = .named target → (r.get? target).isSome

theorem coherent_empty : empty.Coherent where
  present := by simp [empty]
  distinct := by simp [empty]
  lookup_iff := by simp [empty, lookup, get?]
  closed := by simp [empty]

/-- A name that is not indexed names no type. -/
theorem Coherent.name_ne {r : Registry} (hr : r.Coherent) {name : String}
    (hl : r.lookup name = none) : ∀ t ∈ r.types, t.name ≠ name := by
  intro t ht heq
  obtain ⟨i, hi⟩ := List.mem_iff_getElem?.mp ht
  have hsome : r.lookup name = some ⟨i⟩ := (hr.lookup_iff name ⟨i⟩).mpr ⟨t, hi, heq⟩
  rw [hl] at hsome
  cases hsome

/-- The name of a handle is the one that it is indexed by. -/
theorem Coherent.nameOf_eq_ok_iff {r : Registry} (hr : r.Coherent) {h : Handle} {name : String} :
    r.nameOf h = .ok name ↔ r.lookup name = some h :=
  nameOf_eq_ok.trans (hr.lookup_iff name h).symm

/-- A handle is indexed by one name. -/
theorem Coherent.lookup_injective {r : Registry} (hr : r.Coherent) {name name' : String}
    {h : Handle} (hl : r.lookup name = some h) (hl' : r.lookup name' = some h) :
    name = name' := by
  rw [← hr.nameOf_eq_ok_iff] at hl hl'
  exact Except.ok.inj (hl.symm.trans hl')

/-- A name keeps its handle in a registry that extends another. -/
theorem Coherent.lookup_of_extends {r r' : Registry} (hr : r.Coherent) (hr' : r'.Coherent)
    (he : r.Extends r') {name : String} {h : Handle} (hl : r.lookup name = some h) :
    r'.lookup name = some h := by
  obtain ⟨t, ht, hname⟩ := (hr.lookup_iff name h).mp hl
  obtain ⟨t', ht', hname', -⟩ := he h t ht
  exact (hr'.lookup_iff name h).mpr ⟨t', ht', hname'.trans hname⟩

theorem Coherent.insert {r r' : Registry} (hr : r.Coherent) {name : String} {h : Handle}
    (hi : r.insert name = .ok (h, r')) : r'.Coherent := by
  have hext := extends_insert hi
  obtain ⟨hblank, hl, rfl, rfl⟩ := insert_eq_ok.mp hi
  have hnew := hr.name_ne hl
  refine ⟨?_, ?_, ?_, ?_⟩
  · intro t ht
    rcases List.mem_append.mp ht with ht | ht
    · exact hr.present t ht
    · rw [List.mem_singleton.mp ht]
      exact hblank
  · simp only [List.map_append, List.map_cons, List.map_nil]
    refine hr.distinct.append (by simp) ?_
    intro n hn hn'
    obtain ⟨t, ht, rfl⟩ := List.mem_map.mp hn
    exact hnew t ht (List.mem_singleton.mp hn')
  · intro n k
    rw [get?_append]
    by_cases hk : k = ⟨r.size⟩
    · subst hk
      have hold : r.lookup n ≠ some ⟨r.size⟩ := by
        intro hs
        obtain ⟨t, ht, _⟩ := (hr.lookup_iff n _).mp hs
        rw [get?_size] at ht
        cases ht
      by_cases hn : n = name
      · simp [lookup_cons, hn]
      · simpa [lookup_cons, hn, hold] using Ne.symm hn
    · rw [if_neg hk, ← hr.lookup_iff]
      by_cases hn : n = name
      · simp [lookup_cons, hn, hl, Ne.symm hk]
      · simp [lookup_cons, hn]
  · intro t ht field hf target htarget
    rcases List.mem_append.mp ht with ht | ht
    · exact hext.isSome (hr.closed t ht field hf target htarget)
    · rw [List.mem_singleton.mp ht] at hf
      cases hf

theorem Coherent.pushField {r r' : Registry} (hr : r.Coherent) {h : Handle} {field : Field}
    (hp : r.pushField h field = .ok r') : r'.Coherent := by
  have hext := extends_pushField hp
  obtain ⟨hadmits, t, ht, rfl⟩ := pushField_eq_ok.mp hp
  have hmem : t ∈ r.types := List.mem_of_getElem? ht
  have hnames : (r.types.set h.index { t with fields := t.fields ++ [field] }).map (·.name) =
      r.types.map (·.name) := by
    obtain ⟨hlt, rfl⟩ := List.getElem?_eq_some_iff.mp ht
    rw [List.map_set]
    apply List.ext_getElem (by simp)
    intro i hi _
    rw [List.getElem_set]
    split
    · simp_all
    · rfl
  refine ⟨?_, ?_, ?_, ?_⟩
  · intro u hu
    rcases List.mem_or_eq_of_mem_set hu with hu | rfl
    · exact hr.present u hu
    · exact hr.present t hmem
  · simpa only [hnames] using hr.distinct
  · intro n k
    rw [get?_set _ ht]
    refine (hr.lookup_iff n k).trans ?_
    by_cases hk : k = h
    · subst hk
      simp [ht]
    · simp [hk]
  · intro u hu f hf target htarget
    apply hext.isSome
    rcases List.mem_or_eq_of_mem_set hu with hu | rfl
    · exact hr.closed u hu f hf target htarget
    · rcases List.mem_append.mp hf with hf | hf
      · exact hr.closed t hmem f hf target htarget
      · rw [List.mem_singleton.mp hf] at htarget
        exact hadmits target htarget

/-! ## Growth -/

/-- A registry changes by a new type or by a new field that satisfies `p`. -/
inductive Step (p : Field → Prop) : Registry → Registry → Prop where
  | insert {r r' : Registry} {name : String} {h : Handle} :
      r.insert name = .ok (h, r') → Step p r r'
  | pushField {r r' : Registry} {h : Handle} {field : Field} :
      p field → r.pushField h field = .ok r' → Step p r r'

/-- A registry grows by any number of changes. -/
def Grows (p : Field → Prop) : Registry → Registry → Prop := Relation.ReflTransGen (Step p)

theorem Step.extends {p : Field → Prop} {r r' : Registry} (hs : Step p r r') : r.Extends r' := by
  cases hs with
  | insert hi => exact extends_insert hi
  | pushField _ hp => exact extends_pushField hp

theorem Step.coherent {p : Field → Prop} {r r' : Registry} (hs : Step p r r')
    (hr : r.Coherent) : r'.Coherent := by
  cases hs with
  | insert hi => exact hr.insert hi
  | pushField _ hp => exact hr.pushField hp

/-- Every field of every type satisfies `p`. -/
def AllFields (p : Field → Prop) (r : Registry) : Prop := ∀ t ∈ r.types, ∀ field ∈ t.fields, p field

theorem Step.allFields {p : Field → Prop} {r r' : Registry} (hs : Step p r r')
    (hr : r.AllFields p) : r'.AllFields p := by
  cases hs with
  | insert hi =>
      obtain ⟨_, _, _, rfl⟩ := insert_eq_ok.mp hi
      intro t ht field hf
      rcases List.mem_append.mp ht with ht | ht
      · exact hr t ht field hf
      · rw [List.mem_singleton.mp ht] at hf
        cases hf
  | pushField hfield hp =>
      obtain ⟨_, u, hu, rfl⟩ := pushField_eq_ok.mp hp
      intro t ht field hf
      rcases List.mem_or_eq_of_mem_set ht with ht | rfl
      · exact hr t ht field hf
      · rcases List.mem_append.mp hf with hf | hf
        · exact hr u (List.mem_of_getElem? hu) field hf
        · rw [List.mem_singleton.mp hf]
          exact hfield

theorem Grows.extends {p : Field → Prop} {r r' : Registry} (hg : Grows p r r') :
    r.Extends r' := by
  induction hg with
  | refl => exact Extends.refl r
  | tail _ hs ih => exact ih.trans hs.extends

theorem Grows.coherent {p : Field → Prop} {r r' : Registry} (hg : Grows p r r')
    (hr : r.Coherent) : r'.Coherent := by
  induction hg with
  | refl => exact hr
  | tail _ hs ih => exact hs.coherent ih

theorem Grows.allFields {p : Field → Prop} {r r' : Registry} (hg : Grows p r r')
    (hr : r.AllFields p) : r'.AllFields p := by
  induction hg with
  | refl => exact hr
  | tail _ hs ih => exact hs.allFields ih

end ServiceContract.Registry
