import ServiceContract.Proofs.TypeGraph.Mirror
import ServiceContract.Proofs.TypeGraph.Run

/-!
# Building follows the ledger

Each step of building, started in a state that mirrors a ledger, does what the ledger makes of the
events of its structure: it fails where the ledger fails, with the same error, and otherwise leaves
a state that mirrors the ledger after the events.
-/

namespace ServiceContract

open TypeGraph Function

namespace TypeGraph.Build

variable {α β : Type} {g : TypeGraph} {L : Ledger}

/-! ## Steps that follow events -/

/-- The step fails as the ledger does, or both succeed and `post` holds of the result. -/
def Follows (b : Build α) (g : TypeGraph) (L : Ledger) (events : List Event)
    (post : α → TypeGraph → Ledger → Prop) : Prop :=
  match L.run events with
  | .ok L' => ∃ a g', b.runFrom g = (.ok a, g') ∧ post a g' L'
  | .error e => (b.runFrom g).1 = .error e

theorem Follows.of_ok {b : Build α} {events : List Event} {post : α → TypeGraph → Ledger → Prop}
    {a : α} {g' : TypeGraph} {L' : Ledger} (hL : L.run events = .ok L')
    (hb : b.runFrom g = (.ok a, g')) (hp : post a g' L') : b.Follows g L events post := by
  unfold Follows
  rw [hL]
  exact ⟨a, g', hb, hp⟩

theorem Follows.of_error {b : Build α} {events : List Event}
    {post : α → TypeGraph → Ledger → Prop} {e : ModelError} (hL : L.run events = .error e)
    (hb : (b.runFrom g).1 = .error e) : b.Follows g L events post := by
  unfold Follows
  rw [hL]
  exact hb

theorem Follows.pure {post : α → TypeGraph → Ledger → Prop} {a : α} (hp : post a g L) :
    (Pure.pure a : Build α).Follows g L [] post :=
  .of_ok (Ledger.run_nil L) (runFrom_pure a g) hp

theorem Follows.ok {b : Build α} {events : List Event} {post : α → TypeGraph → Ledger → Prop}
    (h : b.Follows g L events post) {L' : Ledger} (hL : L.run events = .ok L') :
    ∃ a g', b.runFrom g = (.ok a, g') ∧ post a g' L' := by
  unfold Follows at h
  rwa [hL] at h

theorem Follows.error {b : Build α} {events : List Event} {post : α → TypeGraph → Ledger → Prop}
    (h : b.Follows g L events post) {e : ModelError} (hL : L.run events = .error e) :
    (b.runFrom g).1 = .error e := by
  unfold Follows at h
  rwa [hL] at h

theorem Follows.mono {b : Build α} {events : List Event}
    {post post' : α → TypeGraph → Ledger → Prop} (h : b.Follows g L events post)
    (hp : ∀ a g' L', L.run events = .ok L' → post a g' L' → post' a g' L') :
    b.Follows g L events post' := by
  cases hL : L.run events with
  | ok L' =>
      obtain ⟨a, g', hb, hpost⟩ := h.ok hL
      exact .of_ok hL hb (hp a g' L' hL hpost)
  | error e => exact .of_error hL (h.error hL)

/-- A step after another follows the events of both. -/
theorem Follows.bind {b : Build α} {next : α → Build β} {before after : List Event}
    {mid : α → TypeGraph → Ledger → Prop} {post : β → TypeGraph → Ledger → Prop}
    (hb : b.Follows g L before mid)
    (hn : ∀ a g' L', L.run before = .ok L' → mid a g' L' → (next a).Follows g' L' after post) :
    (b >>= next).Follows g L (before ++ after) post := by
  cases hL : L.run before with
  | error e =>
      have hrun : L.run (before ++ after) = .error e := by
        rw [Ledger.run_append, hL]
        rfl
      refine .of_error hrun ?_
      have herr := hb.error hL
      rw [runFrom_bind]
      cases hr : b.runFrom g with
      | mk outcome g' =>
          rw [hr] at herr
          cases herr
          rfl
  | ok L₁ =>
      obtain ⟨a, g₁, hrun, hmid⟩ := hb.ok hL
      have hnext := hn a g₁ L₁ hL hmid
      have hbind : (b >>= next).runFrom g = (next a).runFrom g₁ := by rw [runFrom_bind, hrun]
      have hevents : L.run (before ++ after) = L₁.run after := by
        rw [Ledger.run_append, hL]
        rfl
      unfold Follows at hnext ⊢
      rwa [hbind, hevents]

/-- Steps that come to the same follow the same events. -/
theorem Follows.congr {b b' : Build α} {events : List Event}
    {post : α → TypeGraph → Ledger → Prop} (heq : b.runFrom g = b'.runFrom g)
    (h : b'.Follows g L events post) : b.Follows g L events post := by
  unfold Follows at h ⊢
  rwa [heq]

/-- A step that asks for nothing comes before the events of the next. -/
theorem Follows.bind_ok {b : Build α} {next : α → Build β} {events : List Event}
    {post : β → TypeGraph → Ledger → Prop} {a : α} {g' : TypeGraph}
    (hb : b.runFrom g = (.ok a, g')) (hn : (next a).Follows g' L events post) :
    (b >>= next).Follows g L events post := by
  have hbind : (b >>= next).runFrom g = (next a).runFrom g' := by rw [runFrom_bind, hb]
  unfold Follows at hn ⊢
  rwa [hbind]

/-- A step that asks for nothing comes after the events of another. -/
theorem Follows.bind_nil {b : Build α} {next : α → Build β} {events : List Event}
    {mid : α → TypeGraph → Ledger → Prop} {post : β → TypeGraph → Ledger → Prop}
    (hb : b.Follows g L events mid)
    (hn : ∀ a g' L', L.run events = .ok L' → mid a g' L' → (next a).Follows g' L' [] post) :
    (b >>= next).Follows g L events post := by
  rw [← List.append_nil events]
  exact hb.bind hn

/-- What is returned after a step follows no further events. -/
theorem Follows.bind_pure {b : Build α} {f : α → β} {events : List Event}
    {mid : α → TypeGraph → Ledger → Prop} {post : β → TypeGraph → Ledger → Prop}
    (hb : b.Follows g L events mid)
    (hp : ∀ a g' L', L.run events = .ok L' → mid a g' L' → post (f a) g' L') :
    (b >>= fun a => Pure.pure (f a)).Follows g L events post :=
  hb.bind_nil fun a g' L' hL hmid => .pure (hp a g' L' hL hmid)

end TypeGraph.Build

open TypeGraph.Build

namespace TypeGraph

variable {g : TypeGraph} {L : Ledger} {pending : Pending} {name owner : String} {h : Handle}

/-! ## Types that exist -/

theorem resolve_follows (hm : g.Mirrors L pending) (target : String) :
    (ask (·.resolve target)).Follows g L [.refer target]
      fun k g' L' => L.handle? target = some k ∧ g' = g ∧ L' = L := by
  have hres := hm.registry.resolve_eq target
  by_cases ht : target ∈ L.names
  · have hk := Ledger.handle?_of_mem ht
    have hL : L.run [.refer target] = .ok L :=
      Ledger.run_cons_eq_ok.mpr ⟨L, Ledger.step_refer_eq_ok.mpr ⟨ht, rfl⟩, rfl⟩
    refine .of_ok hL ?_ ⟨hk, rfl, rfl⟩
    rw [runFrom_ask, hres, hk]
  · have hk := Ledger.handle?_of_notMem ht
    refine .of_error (Ledger.run_cons_of_error (Ledger.step_refer_of_notMem ht) []) ?_
    rw [runFrom_ask, hres, hk]

/-- A field is added to a type that is being populated. -/
theorem runFrom_pushField_mirrors (hm : g.Mirrors L pending) (hh : L.handle? owner = some h)
    {os : List Outline} (hos : pending owner = some os) {o : Outline} (ho : o.Within L.names) :
    ∃ g', (pushField h (o.field L.names)).runFrom g = (.ok (), g') ∧
      g'.Mirrors L (update pending owner (some (os ++ [o]))) := by
  obtain ⟨r, hpush, hr⟩ := hm.registry.pushField hh hos ho
  refine ⟨{ g with registry := r }, by rw [runFrom_pushField, hpush], hr, hm.shapes_eq, ?_, ?_⟩
  · intro n hn
    by_cases heq : n = owner
    · rw [heq]
      exact (Ledger.handle?_eq_some.mp hh).1
    · exact hm.pending_mem n (by rwa [update_of_ne heq] at hn)
  · intro n s hs hn
    by_cases heq : n = owner
    · rw [heq, update_self] at hn
      cases hn
    · exact hm.settled n s hs (by rwa [update_of_ne heq] at hn)

/-- The fields of atoms are added one after another. -/
theorem runFrom_pushAtoms_mirrors (hm : g.Mirrors L pending) (hh : L.handle? owner = some h)
    {os : List Outline} (hos : pending owner = some os) (position : Nat) (atoms : List Atom) :
    ∃ g', (pushAtoms h position atoms).runFrom g = (.ok (), g') ∧
      g'.Mirrors L (update pending owner
        (some (os ++ atoms.mapIdx fun i atom => atom.outline (position + i + 1)))) := by
  induction atoms generalizing g pending os position with
  | nil => exact ⟨g, rfl, by simpa [← hos] using hm⟩
  | cons atom rest ih =>
      have hwithin : (atom.outline (position + 1)).Within L.names :=
        Outline.within_primitive _ _ _ _
      obtain ⟨g₁, hrun₁, hm₁⟩ := runFrom_pushField_mirrors hm hh hos hwithin
      obtain ⟨g₂, hrun₂, hm₂⟩ := ih hm₁ (update_self _ _ _) (position + 1)
      refine ⟨g₂, ?_, ?_⟩
      · simp only [pushAtoms]
        rw [runFrom_bind, show atomField (position + 1) atom =
          (atom.outline (position + 1)).field L.names from rfl, hrun₁]
        exact hrun₂
      · rw [update_idem, List.append_assoc] at hm₂
        simpa [List.mapIdx_cons, Nat.add_assoc, Nat.add_comm, Nat.add_left_comm] using hm₂

/-- A type that has all that its entry asks for is complete. -/
theorem Mirrors.settle {e : Registration} (he : L.record? name = some e)
    (hnone : pending name = none)
    (hs : ∀ s, e.origin = .shape s → L.run (s.events name) = .ok L)
    (hm : g.Mirrors L (update pending name (some e.outlines))) : g.Mirrors L pending := by
  refine ⟨.settle he hnone hm.registry, hm.shapes_eq, ?_, ?_⟩
  · intro n hn
    by_cases heq : n = name
    · exact heq ▸ Ledger.record?_mem_names he
    · exact hm.pending_mem n (by rwa [update_of_ne heq])
  · intro n s hshape hn
    by_cases heq : n = name
    · subst heq
      have hentry := Ledger.shape?_eq_some.mp hshape
      rw [he] at hentry
      exact hs s (by rw [Option.some.inj hentry])
    · exact hm.settled n s hshape (by rwa [update_of_ne heq])

/-! ## Types that are registered -/

/-- A registered name cannot be registered again, and a blank one never. -/
theorem insert_eq_error (hm : g.Mirrors L pending) {e : ModelError}
    (he : name ∈ L.names ∧ e = .duplicateType name ∨
      name ∉ L.names ∧ Text.isBlank name ∧ e = .emptyName) :
    g.registry.insert name = .error e := by
  unfold Registry.insert
  rcases he with ⟨hmem, rfl⟩ | ⟨hmem, hb, rfl⟩
  · obtain ⟨old, hold⟩ := Ledger.exists_record? hmem
    have hpresent : Text.isBlank name = false := by
      rw [← Ledger.record?_name hold]
      exact hm.registry.present old (Ledger.record?_mem hold)
    obtain ⟨k, hk⟩ := Option.isSome_iff_exists.mp (hm.registry.lookup_isSome.mpr hmem)
    simp [hpresent, hk]
  · simp [hb]

/-- A new type is registered, with nothing in it yet and with the shape that it stands for. -/
theorem Mirrors.register (hm : g.Mirrors L pending) {e : Registration} (hn : e.name ∉ L.names)
    {r : Registry} (hr : r.Mirrors (L ++ [e]) (update pending e.name (some [])))
    {shapes : List (String × Shape)}
    (hshapes : ∀ n, shapes.lookup n = Ledger.shape? (L ++ [e]) n) :
    (⟨r, shapes⟩ : TypeGraph).Mirrors (L ++ [e]) (update pending e.name (some [])) := by
  refine ⟨hr, hshapes, ?_, ?_⟩
  · intro n hp
    rw [Ledger.names_append]
    by_cases heq : n = e.name
    · simp [heq, Ledger.names]
    · rw [update_of_ne heq] at hp
      exact List.mem_append_left _ (hm.pending_mem n hp)
  · intro n s hs hp
    have hne : n ≠ e.name := by
      rintro rfl
      simp at hp
    rw [update_of_ne hne] at hp
    rw [Ledger.shape?_append_new hn, if_neg hne] at hs
    exact Ledger.run_keep (List.prefix_append _ _) (hm.settled n s hs hp)

/-- A new type that stands for no shape is registered, with nothing in it yet. -/
theorem runFrom_insert_mirrors (hm : g.Mirrors L pending) {e : Registration}
    (hn : e.name ∉ L.names) (hb : Text.isBlank e.name = false) (hs : e.origin.shape? = none) :
    ∃ k g', (insert e.name).runFrom g = (.ok k, g') ∧
      Ledger.handle? (L ++ [e]) e.name = some k ∧
      g'.Mirrors (L ++ [e]) (update pending e.name (some [])) := by
  obtain ⟨k, r, hinsert, hk, hr⟩ := hm.registry.insert hn hb
  refine ⟨k, { g with registry := r }, by rw [runFrom_insert, hinsert], hk, hm.register hn hr ?_⟩
  intro n
  rw [hm.shapes_eq, Ledger.shape?_append_new hn]
  by_cases heq : n = e.name
  · have hnone : L.record? e.name = none := Ledger.record?_eq_none.mpr hn
    simp [heq, hs, Ledger.shape?, hnone]
  · rw [if_neg heq]

/-- A name that may not be asked for again is registered, or fails. -/
theorem insert_follows (hm : g.Mirrors L pending) {e : Registration}
    (hs : e.origin.shape? = none)
    (hold : ∀ old, L.record? e.name = some old → ¬ e.origin.Accepts old.origin) :
    (insert e.name).Follows g L [.register e] fun k g' L' =>
      L' = L ++ [e] ∧ L'.record? e.name = some e ∧ L'.handle? e.name = some k ∧
        g'.Mirrors L' (update pending e.name (some [])) := by
  cases he : L.record? e.name with
  | some old =>
      refine .of_error (Ledger.run_register_duplicate he (hold old he) []) ?_
      rw [runFrom_insert, insert_eq_error hm (.inl ⟨Ledger.record?_mem_names he, rfl⟩)]
  | none =>
      have hn : e.name ∉ L.names := Ledger.record?_eq_none.mp he
      cases hb : Text.isBlank e.name with
      | true =>
          refine .of_error (Ledger.run_register_blank he hb []) ?_
          rw [runFrom_insert, insert_eq_error hm (.inr ⟨hn, hb, rfl⟩)]
      | false =>
          obtain ⟨k, g', hrun, hk, hm'⟩ := runFrom_insert_mirrors hm hn hb hs
          have hnew : Ledger.record? (L ++ [e]) e.name = some e := by
            rw [Ledger.record?_append_new hn, if_pos rfl]
          exact .of_ok (Ledger.run_register_new he hb) hrun ⟨rfl, hnew, hk, hm'⟩

theorem Mirrors.pending_eq_none (hm : g.Mirrors L pending) (hn : name ∉ L.names) :
    pending name = none := by
  by_contra hsome
  exact hn (hm.pending_mem name hsome)

/-- The type of a name is the one that is there, or a new one without fields. -/
theorem typeFor_follows (hm : g.Mirrors L pending) (name : String) :
    (typeFor name).Follows g L [.register ⟨name, .substitute⟩]
      fun k g' L' => L'.handle? name = some k ∧ g'.Mirrors L' pending := by
  have hrun := runFrom_typeFor name g
  rw [hm.registry.lookup_eq] at hrun
  cases he : L.record? name with
  | some old =>
      have hk := Ledger.handle?_of_mem (Ledger.record?_mem_names he)
      rw [hk] at hrun
      exact .of_ok (Ledger.run_register_old he trivial) hrun ⟨hk, hm⟩
  | none =>
      have hn : name ∉ L.names := Ledger.record?_eq_none.mp he
      rw [Ledger.handle?_of_notMem hn] at hrun
      have hinsert := insert_follows hm (e := ⟨name, .substitute⟩) rfl
        (by
          intro old hold
          rw [he] at hold
          cases hold)
      refine .congr hrun (hinsert.mono ?_)
      rintro k g' L' - ⟨-, hnew, hk, hm'⟩
      refine ⟨hk, .settle hnew (hm.pending_eq_none hn) ?_ hm'⟩
      intro s hs
      cases hs

end TypeGraph

end ServiceContract
