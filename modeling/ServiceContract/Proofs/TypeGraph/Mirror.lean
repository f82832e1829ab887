import Mathlib.Data.List.Basic
import Mathlib.Logic.Function.Basic
import ServiceContract.Proofs.Registry.Growth
import ServiceContract.Proofs.TypeGraph.Ledger

/-!
# Registries that mirror a ledger

A registry mirrors a ledger when its types are the outlines of the entries, in order. While a type
is being populated its outlines so far are pending; all other types are complete.
-/

namespace ServiceContract

open TypeGraph Function

/-- The outlines that the types still being populated have so far. -/
abbrev Pending := String → Option (List Outline)

def Pending.nothing : Pending := fun _ => none

/-- The outlines that an entry has so far. -/
def Registration.filled (pending : Pending) (e : Registration) : List Outline :=
  (pending e.name).getD e.outlines

/-- The type of an entry so far, in a registry with types of these names. -/
def Registration.dataType (names : List String) (pending : Pending) (e : Registration) : DataType :=
  ⟨e.name, (e.filled pending).map (·.field names)⟩

namespace Registry

/-- The types are those of the entries, the index gives their places, and every type that is meant
by name is there. -/
structure Mirrors (r : Registry) (L : Ledger) (pending : Pending) : Prop where
  types_eq : r.types = L.map (Registration.dataType L.names pending)
  lookup_eq : ∀ name, r.lookup name = L.handle? name
  within : ∀ e ∈ L, ∀ o ∈ e.filled pending, o.Within L.names
  present : ∀ e ∈ L, Text.isBlank e.name = false
  distinct : L.names.Nodup

variable {r : Registry} {L : Ledger} {pending : Pending} {name : String} {h : Handle}

theorem mirrors_empty (pending : Pending) : empty.Mirrors [] pending where
  types_eq := rfl
  lookup_eq := by simp [lookup, empty, Ledger.handle?, Ledger.names]
  within := by simp
  present := by simp
  distinct := List.nodup_nil

theorem Mirrors.names_eq (hm : r.Mirrors L pending) : r.types.map (·.name) = L.names := by
  simp [hm.types_eq, Ledger.names, Registration.dataType]

theorem Mirrors.nodup_names (hm : r.Mirrors L pending) : (r.types.map (·.name)).Nodup := by
  rw [hm.names_eq]
  exact hm.distinct

theorem Mirrors.name_ne_empty (hm : r.Mirrors L pending) : ∀ t ∈ r.types, t.name ≠ "" := by
  intro t ht hname
  obtain ⟨e, he, rfl⟩ := List.mem_map.mp (hm.types_eq ▸ ht)
  have hblank : Text.isBlank e.name = true := by
    rw [show e.name = "" from hname]
    decide
  rw [hm.present e he] at hblank
  cases hblank

theorem Mirrors.size_eq (hm : r.Mirrors L pending) : r.size = L.length := by
  simp [size, hm.types_eq]

theorem Mirrors.lookup_isSome (hm : r.Mirrors L pending) :
    (r.lookup name).isSome ↔ name ∈ L.names := by
  rw [hm.lookup_eq]
  unfold Ledger.handle?
  split <;> simp_all

theorem Mirrors.get?_eq (hm : r.Mirrors L pending) (hh : L.handle? name = some h) :
    r.get? h = (L.record? name).map (Registration.dataType L.names pending) := by
  obtain ⟨hn, rfl⟩ := Ledger.handle?_eq_some.mp hh
  obtain ⟨e, he⟩ := Ledger.exists_record? hn
  have hidx : L.names.idxOf name < L.length := by
    simpa [Ledger.names] using List.idxOf_lt_length_of_mem hn
  have hname : L[L.names.idxOf name].name = name := by
    have hget : (L.map (·.name))[L.names.idxOf name]? = some name := List.getElem?_idxOf hn
    rw [List.getElem?_map, List.getElem?_eq_getElem hidx] at hget
    exact Option.some.inj hget
  have hentry : L.record? name = some L[L.names.idxOf name] := by
    have h' := Ledger.record?_of_mem hm.distinct (List.getElem_mem hidx)
    rwa [hname] at h'
  rw [get?, hm.types_eq, List.getElem?_map, List.getElem?_eq_getElem hidx, hentry]

theorem Mirrors.nameOf_eq (hm : r.Mirrors L pending) (hh : L.handle? name = some h) :
    r.nameOf h = .ok name := by
  obtain ⟨e, he⟩ := Ledger.exists_record? (Ledger.handle?_eq_some.mp hh).1
  have hget := hm.get?_eq hh
  rw [he] at hget
  simp [nameOf, dataType, hget, Registration.dataType, Ledger.record?_name he]

/-- A name is resolved exactly when the ledger has it. -/
theorem Mirrors.resolve_eq (hm : r.Mirrors L pending) (name : String) :
    r.resolve name =
      match L.handle? name with
      | some h => .ok h
      | none => .error (.unresolvedType name) := by
  cases hh : L.handle? name with
  | some h => simp [resolve, hm.lookup_eq, hh]
  | none => simp [resolve, hm.lookup_eq, hh]

/-! ## Registering a type -/

/-- The types registered so far look the same from a longer ledger. -/
theorem Mirrors.map_dataType_mono (hm : r.Mirrors L pending) {more : List String}
    {pending' : Pending} (hp : L.names <+: more)
    (hpending : ∀ n ∈ L.names, pending' n = pending n) :
    L.map (Registration.dataType more pending') =
      L.map (Registration.dataType L.names pending) := by
  apply List.map_congr_left
  intro e he
  have hsame : e.filled pending' = e.filled pending := by
    simp [Registration.filled, hpending e.name (List.mem_map_of_mem he)]
  simp only [Registration.dataType, hsame, DataType.mk.injEq, true_and]
  apply List.map_congr_left
  intro o ho
  exact Outline.field_mono hp (hm.within e he o ho)

/-- A new type is registered with nothing in it yet. -/
theorem Mirrors.insert (hm : r.Mirrors L pending) {e : Registration} (hn : e.name ∉ L.names)
    (hb : Text.isBlank e.name = false) :
    ∃ h r', r.insert e.name = .ok (h, r') ∧ Ledger.handle? (L ++ [e]) e.name = some h ∧
      r'.Mirrors (L ++ [e]) (update pending e.name (some [])) := by
  have hl : r.lookup e.name = none := by
    rw [hm.lookup_eq, Ledger.handle?_of_notMem hn]
  have hp : L.names <+: L.names ++ [e.name] := List.prefix_append _ _
  have hpending : ∀ n ∈ L.names, update pending e.name (some []) n = pending n := by
    intro n hmem
    refine update_of_ne ?_ _ _
    rintro rfl
    exact hn hmem
  have hfilled : e.filled (update pending e.name (some [])) = [] := by simp [Registration.filled]
  have hnames : Ledger.names (L ++ [e]) = L.names ++ [e.name] := Ledger.names_append L [e]
  refine ⟨⟨r.size⟩, _, insert_eq_ok.mpr ⟨hb, hl, rfl, rfl⟩, ?_, ?_, ?_, ?_, ?_, ?_⟩
  · rw [Ledger.handle?_append_new hn, if_pos rfl, hm.size_eq]
  · rw [List.map_append, hnames, hm.map_dataType_mono hp hpending, ← hm.types_eq]
    simp [Registration.dataType, hfilled]
  · intro n
    rw [lookup_cons, hm.lookup_eq, hm.size_eq, Ledger.handle?_append_new hn]
  · intro e' he' o ho
    rw [hnames]
    rcases List.mem_append.mp he' with he' | he'
    · have hsame : e'.filled (update pending e.name (some [])) = e'.filled pending := by
        simp [Registration.filled, hpending e'.name (List.mem_map_of_mem he')]
      rw [hsame] at ho
      exact (hm.within e' he' o ho).mono hp
    · rw [List.mem_singleton.mp he', hfilled] at ho
      cases ho
  · intro e' he'
    rcases List.mem_append.mp he' with he' | he'
    · exact hm.present e' he'
    · rwa [List.mem_singleton.mp he']
  · rw [hnames]
    refine hm.distinct.append (by simp) ?_
    intro n hmem hmem'
    rw [List.mem_singleton.mp hmem'] at hmem
    exact hn hmem

/-! ## Populating a type -/

/-- Replacing the type of a name replaces it in place. -/
theorem set_idxOf (L : Ledger) (hd : L.names.Nodup) {e : Registration}
    (he : L.record? name = some e) (f : Registration → DataType) (new : DataType) :
    (L.map f).set (L.names.idxOf name) new =
      L.map fun x => if x.name = name then new else f x := by
  induction L with
  | nil => simp [Ledger.record?] at he
  | cons x rest ih =>
      simp only [Ledger.names, List.map_cons, List.nodup_cons] at hd ⊢
      by_cases hx : x.name = name
      · have hrest : rest.map f = rest.map fun y => if y.name = name then new else f y := by
          apply List.map_congr_left
          intro y hy
          have hne : y.name ≠ name := by
            rintro rfl
            exact hd.1 (hx ▸ List.mem_map_of_mem hy)
          rw [if_neg hne]
        simp [hx, hrest]
      · have he' : Ledger.record? rest name = some e := by
          simpa [Ledger.record?, hx] using he
        have h := ih hd.2 he'
        simp only [Ledger.names] at h
        simp [List.idxOf_cons_ne _ hx, hx, h]

/-- A field is added behind the pending outlines of its type. -/
theorem Mirrors.pushField (hm : r.Mirrors L pending) (hh : L.handle? name = some h)
    {os : List Outline} (hos : pending name = some os) {o : Outline} (ho : o.Within L.names) :
    ∃ r', r.pushField h (o.field L.names) = .ok r' ∧
      r'.Mirrors L (update pending name (some (os ++ [o]))) := by
  obtain ⟨e, he⟩ := Ledger.exists_record? (Ledger.handle?_eq_some.mp hh).1
  have hname : e.name = name := Ledger.record?_name he
  have hget : r.get? h = some (e.dataType L.names pending) := by rw [hm.get?_eq hh, he]; rfl
  have hadmits : ∀ target, (o.field L.names).type = .named target → (r.get? target).isSome := by
    intro target htarget
    obtain ⟨_, type, _, _⟩ := o
    cases type with
    | primitive p => cases htarget
    | named n =>
        cases htarget
        have hn := Ledger.handle?_of_mem (ho n rfl)
        obtain ⟨found, hfound⟩ := Ledger.exists_record? (ho n rfl)
        rw [hm.get?_eq hn, hfound]
        rfl
  refine ⟨_, pushField_eq_ok.mpr ⟨hadmits, _, hget, rfl⟩, ?_, ?_, ?_, hm.present, hm.distinct⟩
  · simp only [hm.types_eq, (Ledger.handle?_eq_some.mp hh).2]
    rw [set_idxOf L hm.distinct he]
    apply List.map_congr_left
    intro x hx
    by_cases hxn : x.name = name
    · have hxe : x = e := List.inj_on_of_nodup_map hm.distinct hx (Ledger.record?_mem he)
        (hxn.trans hname.symm)
      subst hxe
      simp [hxn, Registration.dataType, Registration.filled, hos]
    · simp [hxn, Registration.dataType, Registration.filled]
  · exact hm.lookup_eq
  · intro x hx o' ho'
    by_cases hxn : x.name = name
    · simp only [Registration.filled, hxn, update_self, Option.getD_some, List.mem_append,
        List.mem_singleton] at ho'
      rcases ho' with ho' | rfl
      · exact hm.within x hx o' (by simpa [Registration.filled, hxn, hos] using ho')
      · exact ho
    · exact hm.within x hx o' (by simpa [Registration.filled, hxn] using ho')

/-- A type whose pending outlines are all that its entry asks for is complete. -/
theorem Mirrors.settle {e : Registration} (he : L.record? name = some e)
    (hnone : pending name = none) (hm : r.Mirrors L (update pending name (some e.outlines))) :
    r.Mirrors L pending := by
  have hsame : ∀ x ∈ L, x.filled (update pending name (some e.outlines)) = x.filled pending := by
    intro x hx
    by_cases hxn : x.name = name
    · have hxe : x = e := List.inj_on_of_nodup_map hm.distinct hx (Ledger.record?_mem he)
        (hxn.trans (Ledger.record?_name he).symm)
      subst hxe
      simp only [Registration.filled, hxn, update_self, hnone, Option.getD_some, Option.getD_none]
    · simp [Registration.filled, hxn]
  refine ⟨?_, hm.lookup_eq, ?_, hm.present, hm.distinct⟩
  · rw [hm.types_eq]
    apply List.map_congr_left
    intro x hx
    simp only [Registration.dataType, hsame x hx]
  · intro x hx o ho
    exact hm.within x hx o (by rwa [hsame x hx])

end Registry

/-! ## States of building -/

/-- The registry mirrors the ledger, shapes are remembered under the names that stand for them, and
meeting a shape again that is not pending changes nothing. -/
structure TypeGraph.Mirrors (g : TypeGraph) (L : Ledger) (pending : Pending) : Prop where
  registry : g.registry.Mirrors L pending
  shapes_eq : ∀ name, g.shapes.lookup name = L.shape? name
  pending_mem : ∀ name, pending name ≠ none → name ∈ L.names
  settled : ∀ name s, L.shape? name = some s → pending name = none → L.run (s.events name) = .ok L

theorem TypeGraph.mirrors_empty : TypeGraph.empty.Mirrors [] .nothing where
  registry := Registry.mirrors_empty _
  shapes_eq := by simp [empty, Ledger.shape?, Ledger.record?]
  pending_mem := by simp [Pending.nothing]
  settled := by simp [Ledger.shape?, Ledger.record?]

end ServiceContract
