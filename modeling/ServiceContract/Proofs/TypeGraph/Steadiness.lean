import ServiceContract.Proofs.TypeGraph.Filling

/-!
# Types of new names

A name comes to stand for a structure before its type is filled. A step that is given no type to
fill leaves the types of all such names filled, unless it fails, and changes no type that was there
before.
-/

namespace ServiceContract

namespace TypeGraph

open Build

variable {p : Field → Prop} {g g' : TypeGraph} {e : Registration} {name : String}
  {shape : Shape} {h target : Handle}

/-! ## Names that come to stand for shapes -/

/-- The name of an entry has come to stand for its shape between these states. -/
def NewlyClaims (g g' : TypeGraph) (e : Registration) : Prop :=
  g.shapes.lookup e.name = none ∧ g'.Claims e

/-- What has come up on the way has done so on one part of it. -/
theorem NewlyClaims.split {g₁ : TypeGraph} (hnew : g.NewlyClaims g' e)
    (hlater : Evolves p g₁ g') : g.NewlyClaims g₁ e ∨ g₁.NewlyClaims g' e := by
  obtain ⟨hnone, hclaims⟩ := hnew
  cases hs : g₁.shapes.lookup e.name with
  | none => exact .inr ⟨hs, hclaims⟩
  | some s =>
      obtain ⟨s', horigin, hs'⟩ := hclaims
      rw [hlater.shape hs] at hs'
      exact .inl ⟨hnone, s', horigin, hs.trans hs'⟩

theorem NewlyClaims.not_of_shapes_eq (hs : g'.shapes = g.shapes) : ¬ g.NewlyClaims g' e := by
  rintro ⟨hnone, s, -, hsome⟩
  rw [hs, hnone] at hsome
  cases hsome

/-- A type that was filled when its name came up is left alone by what keeps new types. -/
theorem NewlyClaims.filled_later {q : Field → Prop} {g₁ : TypeGraph} (hnew : g.NewlyClaims g₁ e)
    (hg : g.registry.Coherent) (he : Evolves p g g₁) (hf : g₁.Filled e) (hlater : Evolves q g₁ g')
    (hk : g₁.registry.Keeps (g.registry.get? · = none) g'.registry) : g'.Filled e := by
  obtain ⟨hnone, s, -, hsome⟩ := hnew
  refine hf.later hlater hk (he.get?_of_claimed hg hnone hsome ?_)
  exact ((he.coherent hg).lookup_iff _ _).mpr ⟨_, hf.holds.1, rfl⟩

namespace Build

variable {α β : Type} {b : Build α} {next : α → Build β}

/-- The names that come to stand for shapes have filled types. Only where the step fails may some
of these types lack fields. -/
structure Fills (b : Build α) (g : TypeGraph) : Prop where
  of_ok : ∀ a g', b.runFrom g = (.ok a, g') → ∀ e, g.NewlyClaims g' e → g'.Filled e
  of_error : ∀ err g', b.runFrom g = (.error err, g') → ∀ e, g.NewlyClaims g' e →
    g'.Filled e ∨ g'.registry.LacksFields e

/-- No name comes to stand for a shape. -/
def Quiet (b : Build α) : Prop := ∀ g, (b.runFrom g).2.shapes = g.shapes

theorem Fills.of_shapes_eq (hs : (b.runFrom g).2.shapes = g.shapes) : b.Fills g where
  of_ok _ _ hrun _ hnew := (NewlyClaims.not_of_shapes_eq (by rw [← hs, hrun]) hnew).elim
  of_error _ _ hrun _ hnew := (NewlyClaims.not_of_shapes_eq (by rw [← hs, hrun]) hnew).elim

/-- A second step fills what is new to it, and leaves alone what the first has filled. -/
theorem Fills.bind {q : Field → Prop} (hg : g.registry.Coherent) (hevolves : b.Evolves p)
    (hb : b.Fills g) (hn : ∀ a, (next a).Evolves q)
    (hkeeps : ∀ a, (next a).Keeps (g.registry.get? · = none))
    (hnext : ∀ a g₁, b.runFrom g = (.ok a, g₁) → (next a).Fills g₁) :
    (b >>= next).Fills g where
  of_ok := by
    intro c g' hrun e hnew
    obtain ⟨a, g₁, hfirst, hsecond⟩ := runFrom_bind_eq_ok.mp hrun
    have hlater := (hn a).of_run hsecond
    rcases hnew.split hlater with hnew₁ | hnew₂
    · have hfilled := hb.of_ok a g₁ hfirst e hnew₁
      exact hnew₁.filled_later hg (hevolves.of_run hfirst) hfilled hlater
        ((hkeeps a).of_run hsecond)
    · exact (hnext a g₁ hfirst).of_ok c g' hsecond e hnew₂
  of_error := by
    intro err g' hrun e hnew
    rcases runFrom_bind_eq_error.mp hrun with hfirst | ⟨a, g₁, hfirst, hsecond⟩
    · exact hb.of_error err g' hfirst e hnew
    · have hlater := (hn a).of_run hsecond
      rcases hnew.split hlater with hnew₁ | hnew₂
      · have hfilled := hb.of_ok a g₁ hfirst e hnew₁
        exact .inl (hnew₁.filled_later hg (hevolves.of_run hfirst) hfilled hlater
          ((hkeeps a).of_run hsecond))
      · exact (hnext a g₁ hfirst).of_error err g' hsecond e hnew₂

theorem Fills.bind_pure (hb : b.Fills g) (f : α → β) :
    (b >>= fun a => Pure.pure (f a)).Fills g where
  of_ok := by
    intro c g' hrun
    obtain ⟨a, g₁, hfirst, hreturn⟩ := runFrom_bind_eq_ok.mp hrun
    cases hreturn
    exact hb.of_ok a g' hfirst
  of_error := by
    intro err g' hrun
    rcases runFrom_bind_eq_error.mp hrun with hfirst | ⟨a, g₁, -, hreturn⟩
    · exact hb.of_error err g' hfirst
    · cases hreturn

/-- Before the second step no name has come up. -/
theorem Fills.bind_quiet (hb : b.Quiet)
    (hnext : ∀ a g₁, b.runFrom g = (.ok a, g₁) → (next a).Fills g₁) : (b >>= next).Fills g where
  of_ok := by
    rintro c g' hrun e ⟨hnone, hclaims⟩
    obtain ⟨a, g₁, hfirst, hsecond⟩ := runFrom_bind_eq_ok.mp hrun
    have hsame := hb g
    rw [hfirst] at hsame
    exact (hnext a g₁ hfirst).of_ok c g' hsecond e ⟨by rw [hsame, hnone], hclaims⟩
  of_error := by
    rintro err g' hrun e ⟨hnone, hclaims⟩
    have hsame := hb g
    rcases runFrom_bind_eq_error.mp hrun with hfirst | ⟨a, g₁, hfirst, hsecond⟩
    · rw [hfirst] at hsame
      exact (NewlyClaims.not_of_shapes_eq hsame ⟨hnone, hclaims⟩).elim
    · rw [hfirst] at hsame
      exact (hnext a g₁ hfirst).of_error err g' hsecond e ⟨by rw [hsame, hnone], hclaims⟩

theorem Quiet.fills (hb : b.Quiet) (g : TypeGraph) : b.Fills g := .of_shapes_eq (hb g)

theorem Quiet.pure (a : α) : Quiet (Pure.pure a : Build α) := fun _ => rfl

theorem Quiet.ask (question : Registry → Except ModelError α) :
    Quiet (TypeGraph.ask question) := by
  intro g
  rw [runFrom_ask]

theorem Quiet.bind (hb : b.Quiet) (hn : ∀ a, (next a).Quiet) : (b >>= next).Quiet := by
  intro g
  rw [runFrom_bind]
  have hfirst := hb g
  cases hrun : b.runFrom g with
  | mk outcome g₁ =>
      rw [hrun] at hfirst
      cases outcome with
      | ok a => exact (hn a g₁).trans hfirst
      | error err => exact hfirst

theorem Quiet.insert (name : String) : Quiet (TypeGraph.insert name) := by
  intro g
  rw [runFrom_insert]
  cases g.registry.insert name <;> rfl

theorem Quiet.pushField (h : Handle) (field : Field) : Quiet (TypeGraph.pushField h field) := by
  intro g
  rw [runFrom_pushField]
  cases g.registry.pushField h field <;> rfl

end Build

theorem typeFor_quiet (name : String) : (typeFor name).Quiet := by
  intro g
  rw [runFrom_typeFor]
  cases g.registry.lookup name with
  | some h => rfl
  | none => exact Quiet.insert name g

theorem wrap_quiet (base : Handle) (c : Cardinality) : (wrap base c).Quiet := by
  unfold wrap
  cases wrapperNames c with
  | none => exact .pure base
  | some names =>
      refine .bind (.ask _) fun baseName => .bind (fun g => rfl) fun g => ?_
      split
      · exact .pure _
      · exact .bind (.insert _) fun wrapper => .bind (.pushField wrapper _) fun _ => .pure _

theorem parameterField_quiet (position : Nat) (parameter : Parameter) :
    (parameterField position parameter).Quiet := by
  cases parameter with
  | atomic a => exact .pure _
  | generic n => exact .pure _
  | reference r => exact .bind (.ask _) fun _ => .pure _

theorem pushAtoms_quiet (target : Handle) (position : Nat) (atoms : List Atom) :
    (pushAtoms target position atoms).Quiet := by
  induction atoms generalizing position with
  | nil => exact .pure _
  | cons atom rest ih => exact .bind (.pushField target _) fun _ => ih _

theorem declareNames_quiet (declarations : List TypeDeclaration) :
    (declareNames declarations).Quiet := by
  induction declarations with
  | nil => exact .pure _
  | cons d rest ih => exact .bind (.insert _) fun _ => .bind ih fun _ => .pure _

/-- Only a fresh claim changes the state. -/
theorem claim_unchanged {outcome : Except ModelError Claim}
    (hrun : (claim name shape).runFrom g = (outcome, g'))
    (hfresh : ∀ k, outcome ≠ .ok (.fresh k)) : g' = g := by
  rw [runFrom_claim] at hrun
  cases hs : g.shapes.lookup name with
  | some existing =>
      rw [hs] at hrun
      simp only at hrun
      split at hrun <;> exact (Prod.mk.inj hrun).2.symm
  | none =>
      rw [hs] at hrun
      simp only at hrun
      split at hrun
      · exact (Prod.mk.inj hrun).2.symm
      · cases hi : g.registry.insert name with
        | error err =>
            rw [hi] at hrun
            exact (Prod.mk.inj hrun).2.symm
        | ok pair =>
            rw [hi] at hrun
            exact (hfresh pair.1 (Prod.mk.inj hrun).1.symm).elim

/-! ## New types are filled -/

/-- The type of a claimed name, from the claim to its last field. -/
theorem filled_of_adds {fill : Build Unit} (hg : g.registry.Coherent)
    (hget : g.registry.get? h = some ⟨name, []⟩)
    (hadds : fill.Adds h name (shape.outlines name) (shape.children name))
    (hevolves : fill.Evolves p) :
    (∀ g', fill.runFrom g = (.ok (), g') → g'.Filled ⟨name, .shape shape⟩) ∧
    ∀ err g', fill.runFrom g = (.error err, g') →
      g'.registry.LacksFields ⟨name, .shape shape⟩ := by
  have hlookup := (hg.lookup_iff name h).mpr ⟨_, hget, rfl⟩
  have hplace : ∀ {outcome g'}, fill.runFrom g = (outcome, g') →
      h = ⟨g'.registry.names.idxOf name⟩ := fun hrun =>
    have hlater := hevolves.of_run hrun
    ((hlater.coherent hg).eq_idxOf (hlater.lookup hg hlookup)).2
  refine ⟨fun g' hrun => ?_, fun err g' hrun => ?_⟩
  · obtain ⟨hget', hwithin, hchildren⟩ := hadds.of_ok g [] g' hg hget hrun
    rw [hplace hrun] at hget'
    exact ⟨⟨hget', hwithin⟩, hchildren⟩
  · obtain ⟨added, hget', hlt⟩ := hadds.of_error g [] err g' hg hget hrun
    rw [hplace hrun] at hget'
    exact ⟨_, hget', hlt⟩

/-- A fresh claim brings up one name. -/
theorem NewlyClaims.eq_of_fresh {r : Registry}
    (hnew : g.NewlyClaims ⟨r, (name, shape) :: g.shapes⟩ e) : e = ⟨name, .shape shape⟩ := by
  obtain ⟨hnone, hclaims⟩ := hnew
  refine hclaims.unique (claims_iff.mpr List.lookup_cons_self) ?_
  by_contra hname
  obtain ⟨s, -, hs⟩ := hclaims
  simp [List.lookup_cons, beq_false_of_ne hname, hnone] at hs

/-- The type of a shape is filled when it is new, and so are the types that come up meanwhile. -/
theorem establish_fills (hg : g.registry.Coherent) {fill : Handle → Build Unit}
    (hadds : ∀ k, (fill k).Adds k name (shape.outlines name) (shape.children name))
    (hevolves : ∀ k, (fill k).Evolves p)
    (hfill : ∀ k g₁, g₁.registry.Coherent → (g₁.registry.get? k).isSome → (fill k).Fills g₁) :
    (establish name shape fill).Fills g where
  of_ok := by
    intro h g' hrun e hnew
    obtain ⟨c, g₁, hclaim, hrest⟩ := runFrom_bind_eq_ok.mp hrun
    cases c with
    | reused k =>
        cases hrest
        obtain rfl := claim_unchanged hclaim nofun
        exact (NewlyClaims.not_of_shapes_eq rfl hnew).elim
    | fresh k =>
        obtain ⟨-, r, hi, rfl⟩ := claim_fresh hclaim
        obtain ⟨_, g₂, hfilling, hreturn⟩ := runFrom_bind_eq_ok.mp hrest
        cases hreturn
        have hget := Registry.get?_insert_self hi
        rcases hnew.split ((hevolves h).of_run hfilling) with hnew₁ | hnew₂
        · obtain rfl := hnew₁.eq_of_fresh
          exact (filled_of_adds (hg.insert hi) hget (hadds h) (hevolves h)).1 g' hfilling
        · exact (hfill h _ (hg.insert hi) (by simp [hget])).of_ok _ g' hfilling e hnew₂
  of_error := by
    intro err g' hrun e hnew
    rcases runFrom_bind_eq_error.mp hrun with hclaim | ⟨c, g₁, hclaim, hrest⟩
    · obtain rfl := claim_unchanged hclaim nofun
      exact (NewlyClaims.not_of_shapes_eq rfl hnew).elim
    · cases c with
      | reused k => cases hrest
      | fresh k =>
          obtain ⟨-, r, hi, rfl⟩ := claim_fresh hclaim
          rcases runFrom_bind_eq_error.mp hrest with hfilling | ⟨_, g₂, -, hreturn⟩
          · have hget := Registry.get?_insert_self hi
            rcases hnew.split ((hevolves k).of_run hfilling) with hnew₁ | hnew₂
            · obtain rfl := hnew₁.eq_of_fresh
              exact .inr ((filled_of_adds (hg.insert hi) hget (hadds k) (hevolves k)).2 err g'
                hfilling)
            · exact (hfill k _ (hg.insert hi) (by simp [hget])).of_error err g' hfilling e hnew₂
          · cases hreturn

theorem nestedField_fills (hg : g.registry.Coherent) (parent : Handle) (position : Nat)
    (name : Option String) (card : Option Marker) (shape : Shape) {fill : Handle → Build Unit}
    (hadds : ∀ k nested, (fill k).Adds k nested (shape.outlines nested) (shape.children nested))
    (hevolves : ∀ k, (fill k).Evolves p)
    (hfill : ∀ k g₁, g₁.registry.Coherent → (g₁.registry.get? k).isSome → (fill k).Fills g₁) :
    (nestedField parent position name card shape fill).Fills g := by
  have hname (child : String) : (nestedName parent child).Quiet :=
    .bind (.ask _) fun _ => .pure _
  refine .bind_quiet (hname _) fun nested g₁ hnested => ?_
  obtain ⟨rfl, -⟩ := runFrom_nestedName_eq_ok.mp hnested
  exact (establish_fills hg (fun k => hadds k nested) hevolves hfill).bind_pure _

mutual

theorem nodeField_fills {g : TypeGraph} (hg : g.registry.Coherent) (parent : Handle)
    (position : Nat) (node : TreeNode) : (nodeField parent position node).Fills g := by
  cases node with
  | single parameter => exact (parameterField_quiet position parameter).fills g
  | tree name nodes card =>
      refine nestedField_fills hg parent position name card _ (fun k nested => ?_)
        (fun k => pushNodes_evolves k 0 nodes) fun k g₁ hg₁ hk => pushNodes_fills hg₁ hk 0 nodes
      have hadds := pushNodes_adds k nested 0 nodes
      simp only [Nat.zero_add] at hadds
      exact hadds
  | list l =>
      refine nestedField_fills hg parent position l.name l.card _ (fun k nested => ?_)
        (fun k => pushAtoms_evolves k 0 l.atoms)
        fun k g₁ _ _ => (pushAtoms_quiet k 0 l.atoms).fills g₁
      have hadds := pushAtoms_adds k nested 0 l.atoms
      simp only [Nat.zero_add] at hadds
      exact hadds
termination_by structural node

/-- The types of nested structures are filled before the fields that mean them are added. -/
theorem pushNodes_fills {g : TypeGraph} {target : Handle} (hg : g.registry.Coherent)
    (ht : (g.registry.get? target).isSome) (position : Nat) (nodes : List TreeNode) :
    (pushNodes target position nodes).Fills g := by
  cases nodes with
  | nil => exact (Quiet.pure ()).fills g
  | cons node rest =>
      have hnode := nodeField_evolves target (position + 1) node
      have hrest := (pushNodes_evolves target (position + 1) rest).weaken
      refine .bind hg hnode (nodeField_fills hg target (position + 1) node)
        (fun field => .bind (.pushField trivial target) fun _ _ => hrest) (fun field => ?_)
        fun field g₁ hfield => .bind_quiet (.pushField target field) fun _ g₂ hpush => ?_
      · refine (Keeps.bind (.pushField target field) fun _ =>
          pushNodes_keeps target (position + 1) rest).mono ?_
        rintro h hh rfl
        simp [hh] at ht
      · -- the target is there, and the state coherent, when the next field is made
        have hpushed := (Build.Evolves.pushField (p := fun _ => True) trivial target).of_run hpush
        have hlater := (hnode.weaken.of_run hfield).trans hpushed
        exact pushNodes_fills (Evolves.coherent hlater hg)
          ((Evolves.grows hlater).extends.isSome ht) _ rest
termination_by structural nodes

end

theorem mapPayload_fills (hg : g.registry.Coherent) (ht : (g.registry.get? target).isSome)
    (payload : Payload) (placement : Placement) :
    (mapPayload target payload placement).Fills g := by
  cases payload with
  | tree t => exact pushNodes_fills hg ht 0 t.nodes
  | atoms l => exact (pushAtoms_quiet target 0 l.atoms).fills g
  | single parameter =>
      exact (Quiet.bind (parameterField_quiet 1 parameter) fun _ => .pushField target _).fills g

theorem declareFields_fills (hg : g.registry.Coherent) (declared : List (Handle × TypeDeclaration))
    (ht : ∀ pair ∈ declared, (g.registry.get? pair.1).isSome) :
    (declareFields declared).Fills g := by
  induction declared generalizing g with
  | nil => exact (Quiet.pure ()).fills g
  | cons pair rest ih =>
      obtain ⟨h, d⟩ := pair
      obtain ⟨hfirst, hrest⟩ := List.forall_mem_cons.mp ht
      have hmap := mapPayload_evolves h d.content .onField
      refine .bind hg hmap (mapPayload_fills hg hfirst d.content .onField)
        (fun _ => declareFields_evolves rest) (fun _ => (declareFields_keeps rest).mono ?_)
        fun _ g₁ hrun => ?_
      · intro k hk hmem
        obtain ⟨pair, hpair, rfl⟩ := List.mem_map.mp hmem
        have hsome := hrest pair hpair
        simp [hk] at hsome
      · have hlater := hmap.of_run hrun
        exact ih (hlater.coherent hg) fun pair hpair =>
          hlater.grows.extends.isSome (hrest pair hpair)

/-! ## Steps that are given no type to fill -/

namespace Build

variable {α β : Type} {b : Build α} {next : α → Build β}

/-- The step leaves the types that there are alone, and fills those of new names. -/
structure Steady (b : Build α) : Prop where
  evolves : b.Evolves fun _ => True
  keeps : b.Keeps fun _ => True
  fills : ∀ g, g.registry.Coherent → b.Fills g

theorem Steady.pure (a : α) : Steady (Pure.pure a : Build α) where
  evolves := .pure a
  keeps := .pure a
  fills g _ := (Quiet.pure a).fills g

theorem Steady.ask (question : Registry → Except ModelError α) :
    Steady (TypeGraph.ask question) where
  evolves := .ask question
  keeps := .ask question
  fills g _ := (Quiet.ask question).fills g

theorem Steady.bind (hb : b.Steady) (hn : ∀ a, (next a).Steady) : (b >>= next).Steady where
  evolves := .bind hb.evolves fun a _ => (hn a).evolves
  keeps := .bind hb.keeps fun a => (hn a).keeps
  fills g hg := .bind hg hb.evolves (hb.fills g hg) (fun a => (hn a).evolves)
    (fun a => (hn a).keeps.mono fun _ _ => trivial)
    fun a g₁ hrun => (hn a).fills g₁ ((hb.evolves.of_run hrun).coherent hg)

theorem Steady.outcome (hb : b.Steady) (hg : g.registry.Coherent)
    (hnew : g.NewlyClaims (b.runFrom g).2 e) :
    (b.runFrom g).2.Filled e ∨ b.Fails g ∧ (b.runFrom g).2.registry.LacksFields e := by
  have hfills := hb.fills g hg
  unfold Fails
  cases hrun : b.runFrom g with
  | mk outcome g' =>
      rw [hrun] at hnew
      cases outcome with
      | ok a => exact .inl (hfills.of_ok a g' hrun e hnew)
      | error err =>
          rcases hfills.of_error err g' hrun e hnew with hfilled | hlacks
          · exact .inl hfilled
          · exact .inr ⟨⟨err, rfl⟩, hlacks⟩

end Build

theorem typeFor_steady (name : String) : (typeFor name).Steady where
  evolves := typeFor_evolves name
  keeps := typeFor_keeps name
  fills g _ := (typeFor_quiet name).fills g

theorem wrap_steady (base : Handle) (c : Cardinality) : (wrap base c).Steady where
  evolves := (wrap_evolves base c).weaken
  keeps := wrap_keeps base c
  fills g _ := (wrap_quiet base c).fills g

theorem synthesize_steady (name : String) (payload : Payload) :
    (synthesize name payload).Steady where
  evolves := (synthesize_evolves name payload).weaken
  keeps := synthesize_keeps name payload
  fills _ hg := establish_fills hg (fun k => mapPayload_adds k name payload)
    (fun k => mapPayload_evolves k payload .onWrapper)
    fun _ _ hg₁ hk => mapPayload_fills hg₁ hk payload .onWrapper

/-- The types of declared names are there before their fields are added. -/
theorem isSome_of_declareNames {declarations : List TypeDeclaration} {hs : List Handle}
    (hrun : (declareNames declarations).runFrom g = (.ok hs, g')) :
    ∀ k ∈ hs, (g'.registry.get? k).isSome := by
  induction declarations generalizing g hs with
  | nil =>
      cases hrun
      simp
  | cons d rest ih =>
      obtain ⟨k, g₁, hinsert, hrun⟩ := runFrom_bind_eq_ok.mp hrun
      obtain ⟨ks, g₂, hrest, hreturn⟩ := runFrom_bind_eq_ok.mp hrun
      cases hreturn
      refine List.forall_mem_cons.mpr ⟨?_, ih hrest⟩
      have hkept := (declareNames_keeps (p := fun _ => True) rest).of_run hrest
      rw [runFrom_insert] at hinsert
      cases hi : g.registry.insert d.name with
      | error err =>
          rw [hi] at hinsert
          cases hinsert
      | ok pair =>
          rw [hi] at hinsert
          cases hinsert
          simp [hkept _ _ trivial (Registry.get?_insert_self hi)]

theorem declareAll_steady (declarations : List TypeDeclaration) :
    (declareAll declarations).Steady where
  evolves := (declareAll_evolves declarations).weaken
  keeps := declareAll_keeps declarations
  fills g hg := by
    refine .bind_quiet (declareNames_quiet declarations) fun handles g₁ hrun => ?_
    have hnames := declareNames_evolves (p := fun _ => True) declarations
    exact declareFields_fills ((hnames.of_run hrun).coherent hg) _ fun pair hpair =>
      isSome_of_declareNames hrun _ (List.of_mem_zip hpair).1

end TypeGraph

open TypeGraph

/-! ## Operations -/

theorem convertEndpoint_steady (endpoint : EndpointDeclaration) :
    (convertEndpoint endpoint).Steady :=
  convertEndpoint_composes (P := fun b => b.Steady)
    ⟨.pure, .ask, .bind, typeFor_steady, wrap_steady, synthesize_steady⟩ endpoint

end ServiceContract
