import ServiceContract.Proofs.Interface.Expansion
import ServiceContract.Proofs.TypeGraph.Frame
import ServiceContract.Proofs.TypeGraph.Handles

/-!
# How types are filled

A structure gives its type one field after another. Where that succeeds the type has exactly the
fields of the structure, and the names of the types right below it stand for their structures;
where it fails the type has fewer fields.
-/

namespace ServiceContract

open TypeGraph

/-! ## Types as their entries have them -/

namespace Registry

variable {p : Handle → Prop} {r r' : Registry} {e : Registration} {n : String} {h : Handle}

def names (r : Registry) : List String := r.types.map (·.name)

/-- The registry has the type of an entry, with exactly the fields of the entry. -/
def Holds (r : Registry) (e : Registration) : Prop := r.HasType r.names e

/-- The type of an entry has fewer fields than the entry. -/
def LacksFields (r : Registry) (e : Registration) : Prop :=
  ∃ t, r.get? ⟨r.names.idxOf e.name⟩ = some t ∧ t.fields.length < e.outlines.length

theorem Holds.not_lacksFields (hh : r.Holds e) : ¬ r.LacksFields e := by
  rintro ⟨t, ht, hlt⟩
  rw [hh.1] at ht
  obtain rfl := Option.some.inj ht
  simp at hlt

theorem Extends.names_isPrefix (he : r.Extends r') : r.names <+: r'.names := by
  rw [List.prefix_iff_getElem?]
  intro i hi
  have hlt : i < r.types.length := by simpa [names] using hi
  obtain ⟨t, ht, hname, -⟩ := he ⟨i⟩ r.types[i] (List.getElem?_eq_getElem hlt)
  have ht : r'.types[i]? = some t := ht
  simp [names, ht, hname]

/-- The handle of a name is its place among the names. -/
theorem Coherent.eq_idxOf (hr : r.Coherent) (hl : r.lookup n = some h) :
    n ∈ r.names ∧ h = ⟨r.names.idxOf n⟩ := by
  obtain ⟨t, ht, rfl⟩ := (hr.lookup_iff n h).mp hl
  obtain ⟨hlt, rfl⟩ := List.getElem?_eq_some_iff.mp ht
  have hlt' : h.index < r.names.length := by simpa [names] using hlt
  have hget : r.names[h.index] = r.types[h.index].name := by simp [names]
  rw [← hget]
  have hidx : r.names.idxOf r.names[h.index] = h.index := hr.distinct.idxOf_getElem _ hlt'
  exact ⟨List.getElem_mem hlt', by rw [hidx]⟩

/-- A name that is found at its place is found there in every registry that extends this one. -/
theorem Extends.idxOf_eq (he : r.Extends r') {t : DataType}
    (ht : r.get? ⟨r.names.idxOf n⟩ = some t) : r'.names.idxOf n = r.names.idxOf n := by
  have hlt : r.names.idxOf n < r.names.length := by
    simpa [names] using (List.getElem?_eq_some_iff.mp ht).1
  exact (he.names_isPrefix.idxOf_eq_of_mem (List.idxOf_lt_length_iff.mp hlt)).symm

theorem Holds.later (hh : r.Holds e) (he : r.Extends r') (hk : r.Keeps p r')
    (hp : p ⟨r.names.idxOf e.name⟩) : r'.Holds e := by
  obtain ⟨hget, hwithin⟩ := hh
  refine ⟨?_, fun o ho => (hwithin o ho).mono he.names_isPrefix⟩
  rw [he.idxOf_eq hget, hk _ _ hp hget,
    List.map_congr_left fun o ho => Outline.field_mono he.names_isPrefix (hwithin o ho)]

theorem LacksFields.later (hl : r.LacksFields e) (he : r.Extends r') (hk : r.Keeps p r')
    (hp : p ⟨r.names.idxOf e.name⟩) : r'.LacksFields e := by
  obtain ⟨t, ht, hlt⟩ := hl
  refine ⟨t, ?_, hlt⟩
  rw [he.idxOf_eq ht]
  exact hk _ _ hp ht

end Registry

/-! ## Structures right below a structure -/

def TreeNode.child? (owner : String) (position : Nat) : TreeNode → Option Registration
  | .single _ => none
  | .tree name nodes card =>
    some ⟨nestedTypeName owner position name, .shape (.tree ⟨name, nodes, card⟩)⟩
  | .list l => some ⟨nestedTypeName owner position l.name, .shape (.list l)⟩

/-- The structures right below a type, of children that follow `position` others. -/
def nodeChildren (owner : String) (position : Nat) : List TreeNode → List Registration
  | [] => []
  | node :: rest =>
    (node.child? owner (position + 1)).toList ++ nodeChildren owner (position + 1) rest

def Payload.children (owner : String) : Payload → List Registration
  | .tree t => nodeChildren owner 0 t.nodes
  | .atoms _ | .single _ => []

def Shape.children (owner : String) : Shape → List Registration
  | .whole payload => payload.children owner
  | .tree t => nodeChildren owner 0 t.nodes
  | .list _ => []

def Registration.children (e : Registration) : List Registration :=
  match e.origin with
  | .shape s => s.children e.name
  | .declared _ | .substitute | .wrapper .. => []

/-- A field that occurs exactly once. -/
def Field.once (field : Field) : Field := { field with isList := false, isNullable := false }

namespace TypeGraph

variable {p : Field → Prop} {g g' : TypeGraph} {e : Registration} {name owner : String}
  {shape : Shape} {h target : Handle}

/-- The name of an entry stands for the shape of the entry. -/
def Claims (g : TypeGraph) (e : Registration) : Prop :=
  ∃ s, e.origin = .shape s ∧ g.shapes.lookup e.name = some s

/-- The type of an entry has exactly its fields, and the types right below it are claimed. -/
structure Filled (g : TypeGraph) (e : Registration) : Prop where
  holds : g.registry.Holds e
  children : ∀ c ∈ e.children, g.Claims c

theorem claims_iff : g.Claims ⟨name, .shape shape⟩ ↔ g.shapes.lookup name = some shape := by
  simp [Claims]

theorem Claims.later (hc : g.Claims e) (he : Evolves p g g') : g'.Claims e := by
  obtain ⟨s, hs, hl⟩ := hc
  exact ⟨s, hs, he.shape hl⟩

/-- A name stands for one shape. -/
theorem Claims.unique {e' : Registration} (hc : g.Claims e) (hc' : g.Claims e')
    (hname : e.name = e'.name) : e = e' := by
  obtain ⟨name, origin⟩ := e
  obtain ⟨name', origin'⟩ := e'
  obtain ⟨s, rfl, hs⟩ := hc
  obtain ⟨s', rfl, hs'⟩ := hc'
  simp only at hname hs hs'
  subst hname
  rw [Option.some.inj (hs.symm.trans hs')]

theorem Filled.later {q : Handle → Prop} (hf : g.Filled e) (he : Evolves p g g')
    (hk : g.registry.Keeps q g'.registry) (hq : q ⟨g.registry.names.idxOf e.name⟩) :
    g'.Filled e where
  holds := hf.holds.later he.grows.extends hk hq
  children c hc := (hf.children c hc).later he

/-- A name that comes to stand for a shape was free. -/
theorem Evolves.lookup_of_claimed (he : Evolves p g g') (hg : g.registry.Coherent)
    (hnone : g.shapes.lookup name = none) (hsome : g'.shapes.lookup name = some shape) :
    g.registry.lookup name = none := by
  induction he with
  | refl =>
      rw [hnone] at hsome
      cases hsome
  | @tail g₁ g₂ hfirst hchange ih =>
      cases hchange with
      | insert => exact ih hsome
      | pushField => exact ih hsome
      | @claim r new h other hfree hi =>
          by_cases hname : name = new
          · subst hname
            by_contra htaken
            obtain ⟨k, hk⟩ := Option.ne_none_iff_exists'.mp htaken
            obtain ⟨-, hnew, -⟩ := Registry.insert_eq_ok.mp hi
            rw [Evolves.lookup hfirst hg hk] at hnew
            cases hnew
          · exact ih (by simpa [List.lookup_cons, beq_false_of_ne hname] using hsome)

/-- The type of a name that comes to stand for a shape is new. -/
theorem Evolves.get?_of_claimed (he : Evolves p g g') (hg : g.registry.Coherent)
    (hnone : g.shapes.lookup name = none) (hsome : g'.shapes.lookup name = some shape)
    (hl : g'.registry.lookup name = some h) : g.registry.get? h = none := by
  by_contra hthere
  obtain ⟨t, ht⟩ := Option.ne_none_iff_exists'.mp hthere
  obtain ⟨t', ht', hname', -⟩ := he.grows.extends h t ht
  obtain ⟨u, hu, hname⟩ := ((he.coherent hg).lookup_iff name h).mp hl
  obtain rfl : t' = u := Option.some.inj (ht'.symm.trans hu)
  have hlookup := (hg.lookup_iff name h).mpr ⟨t, ht, hname'.symm.trans hname⟩
  rw [he.lookup_of_claimed hg hnone hsome] at hlookup
  cases hlookup

/-! ## Fields -/

namespace Build

/-- Where the step succeeds with a field, it is that of an outline, and these types are claimed. -/
def Yields (b : Build Field) (parent : Handle) (owner : String) (o : Outline)
    (cs : List Registration) : Prop :=
  ∀ g field g', g.registry.Coherent → g.registry.nameOf parent = .ok owner →
    b.runFrom g = (.ok field, g') →
      field = o.field g'.registry.names ∧ o.Within g'.registry.names ∧ ∀ c ∈ cs, g'.Claims c

/-- The step adds the fields of these outlines to its target, or fewer where it fails. Where it
succeeds, these types are claimed. -/
structure Adds (b : Build Unit) (target : Handle) (owner : String) (os : List Outline)
    (cs : List Registration) : Prop where
  of_ok : ∀ g fields g', g.registry.Coherent → g.registry.get? target = some ⟨owner, fields⟩ →
    b.runFrom g = (.ok (), g') →
      g'.registry.get? target = some ⟨owner, fields ++ os.map (·.field g'.registry.names)⟩ ∧
        (∀ o ∈ os, o.Within g'.registry.names) ∧ ∀ c ∈ cs, g'.Claims c
  of_error : ∀ g fields e g', g.registry.Coherent →
    g.registry.get? target = some ⟨owner, fields⟩ → b.runFrom g = (.error e, g') →
      ∃ added, g'.registry.get? target = some ⟨owner, fields ++ added⟩ ∧
        added.length < os.length

theorem Adds.nil (target : Handle) (owner : String) :
    Adds (Pure.pure ()) target owner [] [] where
  of_ok := by
    rintro g fields g' - hget hrun
    cases hrun
    simpa using hget
  of_error := by
    rintro g fields e g' - hget hrun
    cases hrun

/-- One field is added, and then the others. -/
theorem Adds.cons {b : Build Field} {rest : Build Unit} {o : Outline} {os : List Outline}
    {cs cs' : List Registration} (hkeeps : b.Keeps fun _ => True) (hevolves : b.Evolves p)
    (hyields : b.Yields target owner o cs) (hrest : rest.Adds target owner os cs')
    (hrestEvolves : rest.Evolves p) :
    Adds (do pushField target (← b); rest) target owner (o :: os) (cs ++ cs') where
  of_ok := by
    intro g fields g' hg hget hrun
    obtain ⟨field, g₁, hb, hnext⟩ := runFrom_bind_eq_ok.mp hrun
    obtain ⟨_, g₂, hpush, hothers⟩ := runFrom_bind_eq_ok.mp hnext
    obtain ⟨r, hr, rfl⟩ := runFrom_pushField_eq_ok.mp hpush
    have hg₁ := (hevolves.of_run hb).coherent hg
    have hget₁ := (hkeeps.of_run hb) target _ trivial hget
    have hname := Registry.nameOf_eq_ok.mpr ⟨_, hget, rfl⟩
    obtain ⟨rfl, hwithin, hclaims⟩ := hyields g field g₁ hg hname hb
    obtain ⟨hget', hwithin', hclaims'⟩ := hrest.of_ok ⟨r, g₁.shapes⟩ _ g' (hg₁.pushField hr)
      (Registry.get?_pushField_self hr hget₁) hothers
    have hlater := hrestEvolves.of_run hothers
    have hprefix : g₁.registry.names <+: g'.registry.names :=
      ((Registry.extends_pushField hr).trans hlater.grows.extends).names_isPrefix
    refine ⟨?_, List.forall_mem_cons.mpr ⟨hwithin.mono hprefix, hwithin'⟩, ?_⟩
    · rw [hget', List.map_cons, Outline.field_mono hprefix hwithin, List.append_assoc]
      rfl
    · intro c hc
      rcases List.mem_append.mp hc with hc | hc
      · have hc₂ : (⟨r, g₁.shapes⟩ : TypeGraph).Claims c := hclaims c hc
        exact hc₂.later hlater
      · exact hclaims' c hc
  of_error := by
    intro g fields e g' hg hget hrun
    rcases runFrom_bind_eq_error.mp hrun with hb | ⟨field, g₁, hb, hnext⟩
    · exact ⟨[], by simpa using (hkeeps.of_run hb) target _ trivial hget, by simp⟩
    · have hg₁ := (hevolves.of_run hb).coherent hg
      have hget₁ := (hkeeps.of_run hb) target _ trivial hget
      rcases runFrom_bind_eq_error.mp hnext with hpush | ⟨_, g₂, hpush, hothers⟩
      · -- the push itself changes nothing where it fails
        have hsame := pushField_aborts target field g₁ ⟨e, by rw [hpush]⟩
        rw [hpush] at hsame
        subst hsame
        exact ⟨[], by simpa using hget₁, by simp⟩
      · obtain ⟨r, hr, rfl⟩ := runFrom_pushField_eq_ok.mp hpush
        obtain ⟨added, hget', hlt⟩ := hrest.of_error ⟨r, g₁.shapes⟩ _ e g' (hg₁.pushField hr)
          (Registry.get?_pushField_self hr hget₁) hothers
        refine ⟨field :: added, ?_, by simpa using hlt⟩
        rw [hget', List.append_assoc]
        rfl

end Build

/-! ## Structures -/

open Build

theorem parameterField_yields (parent : Handle) (owner : String) (position : Nat)
    (parameter : Parameter) :
    (parameterField position parameter).Yields parent owner (parameter.outline position) [] := by
  rintro g field g' hg - hrun
  cases parameter with
  | atomic a =>
      cases hrun
      exact ⟨rfl, Outline.within_primitive _ _ _ _, nofun⟩
  | generic n =>
      cases hrun
      exact ⟨rfl, Outline.within_primitive _ _ _ _, nofun⟩
  | reference r =>
      obtain ⟨k, g₁, hask, hreturn⟩ := runFrom_bind_eq_ok.mp hrun
      rw [runFrom_ask] at hask
      obtain ⟨hresolve, rfl⟩ := Prod.mk.inj hask
      obtain ⟨hmem, rfl⟩ := hg.eq_idxOf (Registry.resolve_eq_ok.mp hresolve)
      cases hreturn
      exact ⟨rfl, Outline.within_named hmem _ _, nofun⟩

/-- A field that has been found may be given another cardinality. -/
theorem Build.Yields.map {b : Build Field} {parent : Handle} {o o' : Outline}
    {cs : List Registration} {f : Field → Field} (hb : b.Yields parent owner o cs)
    (hf : ∀ names, f (o.field names) = o'.field names) (htype : o'.type = o.type) :
    (f <$> b).Yields parent owner o' cs := by
  intro g field g' hg hname hrun
  rw [map_eq_pure_bind] at hrun
  obtain ⟨found, g₁, hfound, hreturn⟩ := runFrom_bind_eq_ok.mp hrun
  obtain ⟨rfl, hwithin, hclaims⟩ := hb g found g₁ hg hname hfound
  cases hreturn
  exact ⟨hf _, fun n hn => hwithin n (htype ▸ hn), hclaims⟩

theorem runFrom_nestedName_eq_ok {parent : Handle} {child nested : String} :
    (nestedName parent child).runFrom g = (.ok nested, g') ↔
      g' = g ∧ ∃ owner, g.registry.nameOf parent = .ok owner ∧
        nested = owner ++ Text.capitalize child := by
  unfold nestedName
  rw [runFrom_bind, runFrom_ask]
  cases g.registry.nameOf parent with
  | error e => simp
  | ok owner => simp [eq_comm, and_comm]

/-- The field of a nested structure means the type that stands for the structure. -/
theorem nestedField_yields (parent : Handle) (owner : String) (position : Nat)
    (name : Option String) (card : Option Marker) (shape : Shape) {fill : Handle → Build Unit}
    (hfill : ∀ h, (fill h).Evolves p) :
    (nestedField parent position name card shape fill).Yields parent owner
      (nestedOutline owner position name card)
      [⟨nestedTypeName owner position name, .shape shape⟩] := by
  intro g field g' hg hname hrun
  obtain ⟨nested, g₁, hnested, hrest⟩ := runFrom_bind_eq_ok.mp hrun
  obtain ⟨rfl, owner', howner, rfl⟩ := runFrom_nestedName_eq_ok.mp hnested
  obtain rfl : owner' = owner := Except.ok.inj (howner.symm.trans hname)
  obtain ⟨k, g₂, hestablish, hreturn⟩ := runFrom_bind_eq_ok.mp hrest
  cases hreturn
  obtain ⟨hshape, hlookup⟩ := establish_settled hg hfill hestablish
  have hevolves := (establish_evolves _ shape hfill).of_run hestablish
  obtain ⟨hmem, rfl⟩ := (hevolves.coherent hg).eq_idxOf hlookup
  refine ⟨rfl, Outline.within_named hmem _ _, fun c hc => ?_⟩
  rw [List.mem_singleton.mp hc]
  exact claims_iff.mpr hshape

theorem nodeField_yields (parent : Handle) (owner : String) (position : Nat) (node : TreeNode) :
    (nodeField parent position node).Yields parent owner (node.outline owner position)
      (node.child? owner position).toList := by
  cases node with
  | single parameter => exact parameterField_yields parent owner position parameter
  | tree name nodes card =>
      exact nestedField_yields parent owner position name card _ fun h =>
        pushNodes_evolves h 0 nodes
  | list l =>
      exact nestedField_yields parent owner position l.name l.card _ fun h =>
        pushAtoms_evolves h 0 l.atoms

theorem mapIdx_cons_shift {α β : Type} (f : Nat → α → β) (position : Nat) (a : α) (rest : List α) :
    (a :: rest).mapIdx (fun i b => f (position + i + 1) b) =
      f (position + 1) a :: rest.mapIdx fun i b => f (position + 1 + i + 1) b := by
  simp [List.mapIdx_cons, Nat.add_assoc, Nat.add_comm, Nat.add_left_comm]

theorem pushAtoms_adds (target : Handle) (owner : String) (position : Nat) (atoms : List Atom) :
    (pushAtoms target position atoms).Adds target owner
      (atoms.mapIdx fun i atom => atom.outline (position + i + 1)) [] := by
  induction atoms generalizing position with
  | nil => exact .nil target owner
  | cons atom rest ih =>
      have hfield := parameterField_yields target owner (position + 1) (.atomic atom)
      have hrest := Adds.cons (p := Field.OneLevel) (.pure _) (.pure _) hfield (ih (position + 1))
        (pushAtoms_evolves _ _ _)
      rw [mapIdx_cons_shift]
      exact hrest

/-- The children that follow others add their fields in order. -/
theorem pushNodes_adds (target : Handle) (owner : String) (position : Nat)
    (nodes : List TreeNode) :
    (pushNodes target position nodes).Adds target owner
      (nodes.mapIdx fun i node => node.outline owner (position + i + 1))
      (nodeChildren owner position nodes) := by
  induction nodes generalizing position with
  | nil => exact .nil target owner
  | cons node rest ih =>
      have hrest := Adds.cons (nodeField_keeps target (position + 1) node)
        (nodeField_evolves target (position + 1) node)
        (nodeField_yields target owner (position + 1) node) (ih (position + 1))
        (pushNodes_evolves target (position + 1) rest)
      rw [mapIdx_cons_shift]
      exact hrest

/-- A whole structure adds its fields, a single parameter without its cardinality. -/
theorem mapPayload_adds (target : Handle) (owner : String) (payload : Payload) :
    (mapPayload target payload .onWrapper).Adds target owner
      (payload.outlines owner .onWrapper) (payload.children owner) := by
  cases payload with
  | tree t =>
      have hnodes := pushNodes_adds target owner 0 t.nodes
      simp only [Nat.zero_add] at hnodes
      exact hnodes
  | atoms l =>
      have hatoms := pushAtoms_adds target owner 0 l.atoms
      simp only [Nat.zero_add] at hatoms
      exact hatoms
  | single parameter =>
      have honce : (Field.once <$> parameterField 1 parameter).Yields target owner
          (parameter.outline 1).once [] :=
        (parameterField_yields target owner 1 parameter).map (fun _ => rfl) rfl
      have hadds := Adds.cons ((parameterField_keeps 1 parameter).map Field.once)
        ((parameterField_evolves (p := fun _ => True) 1 parameter).map Field.once) honce
        (.nil target owner) (.pure ())
      have hmap : mapPayload target (.single parameter) .onWrapper =
          (do pushField target (← Field.once <$> parameterField 1 parameter); pure ()) := by
        simp [mapPayload, Field.once]
      rw [hmap]
      exact hadds

end TypeGraph

end ServiceContract
