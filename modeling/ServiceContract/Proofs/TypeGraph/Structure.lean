import ServiceContract.Proofs.TypeGraph.Population

/-!
# Structures follow their events

The induction over structures. A tree populates its type field by field, while the types nested in
it are registered and completed in between.
-/

namespace ServiceContract

open TypeGraph TypeGraph.Build Function

namespace TypeGraph

variable {g : TypeGraph} {L : Ledger} {pending : Pending} {name owner : String} {h : Handle}

/-- The shapes being populated have names no longer than the owner of the fields to come. -/
def Encloses (pending : Pending) (L : Ledger) (owner : String) : Prop :=
  ∀ n s, L.shape? n = some s → pending n ≠ none → n.length ≤ owner.length

/-- The result is the field of an outline, and nothing new is being populated. -/
def IsField (o : Outline) (pending : Pending) (field : Field) (g : TypeGraph) (L : Ledger) : Prop :=
  field = o.field L.names ∧ o.Within L.names ∧ g.Mirrors L pending

theorem Encloses.extend (hm : g.Mirrors L pending) (ho : Encloses pending L owner) {L' : Ledger}
    (hp : L <+: L') : Encloses pending L' owner := by
  intro n s hs hn
  rw [Ledger.shape?_eq_of_mem hp (hm.pending_mem n hn)] at hs
  exact ho n s hs hn

theorem Encloses.longer (ho : Encloses pending L owner) (hle : owner.length ≤ name.length) :
    Encloses pending L name :=
  fun n s hs hn => (ho n s hs hn).trans hle

/-- The owner may be populated itself. -/
theorem Encloses.update (ho : Encloses pending L owner) (os : Option (List Outline)) :
    Encloses (update pending owner os) L owner := by
  intro n s hs hn
  by_cases heq : n = owner
  · rw [heq]
  · rw [update_of_ne heq] at hn
    exact ho n s hs hn

/-! ## Fields -/

theorem parameterField_follows (hm : g.Mirrors L pending) (position : Nat) (p : Parameter) :
    (parameterField position p).Follows g L p.events (IsField (p.outline position) pending) := by
  cases p with
  | atomic a => exact .pure ⟨rfl, Outline.within_primitive _ _ _ _, hm⟩
  | generic n => exact .pure ⟨rfl, Outline.within_primitive _ _ _ _, hm⟩
  | reference r =>
      refine (resolve_follows hm r.target).bind_pure ?_
      rintro target _ _ - ⟨htarget, rfl, rfl⟩
      obtain ⟨hmem, rfl⟩ := Ledger.handle?_eq_some.mp htarget
      exact ⟨rfl, Outline.within_named hmem _ _, hm⟩

theorem runFrom_nestedName (hm : g.Mirrors L pending) (hh : L.handle? owner = some h)
    (child : String) :
    (nestedName h child).runFrom g = (.ok (owner ++ Text.capitalize child), g) := by
  unfold nestedName
  rw [runFrom_bind, runFrom_ask, hm.registry.nameOf_eq hh]
  rfl

/-- The field of a nested structure means the type that the structure is made into. -/
theorem nestedField_follows (hm : g.Mirrors L pending) (hh : L.handle? owner = some h)
    (ho : Encloses pending L owner) (position : Nat) (name : Option String)
    (card : Option Marker) (shape : Shape) {fill : Handle → Build Unit}
    (hfill : ∀ k g₁ L₁ nested, L₁.handle? nested = some k →
      Encloses (update pending nested (some [])) L₁ nested →
      g₁.Mirrors L₁ (update pending nested (some [])) →
      (fill k).Follows g₁ L₁ (shape.events nested)
        fun _ g' L' => g'.Mirrors L' (update pending nested (some (shape.outlines nested)))) :
    (nestedField h position name card shape fill).Follows g L
      (.register ⟨nestedTypeName owner position name, .shape shape⟩ ::
        shape.events (nestedTypeName owner position name))
      (IsField (nestedOutline owner position name card) pending) := by
  have hlt := length_lt_nestedTypeName owner position name
  have hopen : ∀ s, L.shape? (nestedTypeName owner position name) = some s →
      pending (nestedTypeName owner position name) = none := by
    intro s hs
    by_contra hsome
    have hle := ho _ s hs hsome
    omega
  have hestablish := establish_follows hm shape fill hopen (by
    intro k g₁ L₁ hL₁ hk hm₁
    have ho₁ := ((ho.extend hm (Ledger.run_extends hL₁)).longer hlt.le).update (some [])
    exact hfill k g₁ L₁ _ hk ho₁ hm₁)
  refine .bind_ok (runFrom_nestedName hm hh _) (hestablish.bind_pure ?_)
  rintro k g' L' - ⟨hk, hm'⟩
  obtain ⟨hmem, rfl⟩ := Ledger.handle?_eq_some.mp hk
  exact ⟨rfl, Outline.within_named hmem _ _, hm'⟩

/-- The atoms of a nested list are its only parts. -/
theorem pushAtoms_follows (hm : g.Mirrors L pending) (hh : L.handle? owner = some h)
    {os : List Outline} (hos : pending owner = some os) (atoms : List Atom) :
    (pushAtoms h 0 atoms).Follows g L [] fun _ g' L' =>
      g'.Mirrors L' (update pending owner (some (os ++ atomOutlines atoms))) := by
  obtain ⟨g', hrun, hm'⟩ := runFrom_pushAtoms_mirrors hm hh hos 0 atoms
  simp only [Nat.zero_add] at hm'
  exact .of_ok (Ledger.run_nil L) hrun hm'

/-! ## Trees -/

mutual

theorem nodeField_follows {g : TypeGraph} {L : Ledger} {pending : Pending} {owner : String}
    {h : Handle} (hm : g.Mirrors L pending) (hh : L.handle? owner = some h)
    (ho : Encloses pending L owner) (position : Nat) (node : TreeNode) :
    (nodeField h position node).Follows g L (node.events owner position)
      (IsField (node.outline owner position) pending) := by
  cases node with
  | single p => exact parameterField_follows hm position p
  | tree name nodes card =>
      refine nestedField_follows hm hh ho position name card _ ?_
      intro k g₁ L₁ nested hk ho₁ hm₁
      have hpush := pushNodes_follows hm₁ hk ho₁ (update_self _ _ _) 0 nodes
      simp only [update_idem, List.nil_append, Nat.zero_add] at hpush
      exact hpush
  | list l =>
      refine nestedField_follows hm hh ho position l.name l.card _ ?_
      intro k g₁ L₁ nested hk _ hm₁
      have hpush := pushAtoms_follows hm₁ hk (update_self _ _ _) l.atoms
      simp only [update_idem, List.nil_append] at hpush
      exact hpush
termination_by structural node

/-- The children of a tree that follow others add their fields behind the fields of those. -/
theorem pushNodes_follows {g : TypeGraph} {L : Ledger} {pending : Pending} {owner : String}
    {h : Handle} (hm : g.Mirrors L pending) (hh : L.handle? owner = some h)
    (ho : Encloses pending L owner) {os : List Outline} (hos : pending owner = some os)
    (position : Nat) (nodes : List TreeNode) :
    (pushNodes h position nodes).Follows g L (nodeEvents owner position nodes) fun _ g' L' =>
      g'.Mirrors L' (update pending owner
        (some (os ++ nodes.mapIdx fun i node => node.outline owner (position + i + 1)))) := by
  cases nodes with
  | nil => exact .pure (by simpa [← hos] using hm)
  | cons node rest =>
      refine (nodeField_follows hm hh ho (position + 1) node).bind ?_
      rintro _ g₁ L₁ hL₁ ⟨rfl, hwithin, hm₁⟩
      have hp := Ledger.run_extends hL₁
      have hh₁ := Ledger.handle?_mono hp hh
      obtain ⟨g₂, hrun, hm₂⟩ := runFrom_pushField_mirrors hm₁ hh₁ hos hwithin
      have ho₂ := (ho.extend hm hp).update (some (os ++ [node.outline owner (position + 1)]))
      have hrest := pushNodes_follows hm₂ hh₁ ho₂ (update_self _ _ _) (position + 1) rest
      refine .bind_ok hrun (hrest.mono ?_)
      intro _ g' L' _ hm'
      rw [update_idem, List.append_assoc] at hm'
      simpa [List.mapIdx_cons, Nat.add_assoc, Nat.add_comm, Nat.add_left_comm] using hm'
termination_by structural nodes

end

/-! ## Whole structures -/

/-- A whole structure adds its fields behind the pending ones of its type. -/
theorem mapPayload_follows (hm : g.Mirrors L pending) (hh : L.handle? owner = some h)
    (ho : Encloses pending L owner) {os : List Outline} (hos : pending owner = some os)
    (payload : Payload) (placement : Placement) :
    (mapPayload h payload placement).Follows g L (payload.events owner) fun _ g' L' =>
      g'.Mirrors L' (update pending owner (some (os ++ payload.outlines owner placement))) := by
  cases payload with
  | tree t =>
      have hpush := pushNodes_follows hm hh ho hos 0 t.nodes
      simp only [Nat.zero_add] at hpush
      exact hpush
  | atoms l => exact pushAtoms_follows hm hh hos l.atoms
  | single p =>
      rw [show (Payload.single p).events owner = p.events ++ [] from (List.append_nil _).symm]
      refine (parameterField_follows hm 1 p).bind ?_
      rintro _ g₁ L₁ hL₁ ⟨rfl, hwithin, hm₁⟩
      have hh₁ := Ledger.handle?_mono (Ledger.run_extends hL₁) hh
      cases placement with
      | onField =>
          obtain ⟨g₂, hrun, hm₂⟩ := runFrom_pushField_mirrors hm₁ hh₁ hos hwithin
          exact .of_ok (Ledger.run_nil L₁) hrun hm₂
      | onWrapper =>
          have honce : (p.outline 1).once.Within L₁.names := hwithin
          obtain ⟨g₂, hrun, hm₂⟩ := runFrom_pushField_mirrors hm₁ hh₁ hos honce
          exact .of_ok (Ledger.run_nil L₁) hrun hm₂

/-- The type of an inline structure is complete once it is made. -/
theorem synthesize_follows (hm : g.Mirrors L .nothing) (name : String) (payload : Payload) :
    (synthesize name payload).Follows g L
      (.register ⟨name, .shape (.whole payload)⟩ :: payload.events name)
      fun k g' L' => L'.handle? name = some k ∧ g'.Mirrors L' .nothing := by
  refine establish_follows hm (.whole payload) _ (fun _ _ => rfl) ?_
  rintro k g₁ L₁ - hk hm₁
  have hnothing : Encloses .nothing L₁ name := fun _ _ _ hn => (hn rfl).elim
  have hmap := mapPayload_follows hm₁ hk (hnothing.update _) (update_self _ _ _) payload .onWrapper
  simp only [update_idem, List.nil_append] at hmap
  exact hmap

end TypeGraph

end ServiceContract
