import ServiceContract.Proofs.TypeGraph.Session

/-!
# What steps leave alone

A step adds fields to types that it has registered itself, or to the type that it was given. Every
other type stays as it is, whether the step succeeds or fails.
-/

namespace ServiceContract

/-! ## Types that are kept -/

namespace Registry

variable {p q : Handle → Prop} {r r' r₁ r₂ r₃ : Registry} {name : String} {h : Handle}

/-- The types of these handles stay as they are. -/
def Keeps (p : Handle → Prop) (r r' : Registry) : Prop :=
  ∀ h t, p h → r.get? h = some t → r'.get? h = some t

theorem Keeps.refl (p : Handle → Prop) (r : Registry) : r.Keeps p r := fun _ _ _ ht => ht

theorem Keeps.trans (h₁ : r₁.Keeps p r₂) (h₂ : r₂.Keeps p r₃) : r₁.Keeps p r₃ :=
  fun h t hp ht => h₂ h t hp (h₁ h t hp ht)

/-- What is kept is counted among the types that there are. -/
theorem Keeps.mono (hk : r.Keeps p r') (hq : ∀ h t, r.get? h = some t → q h → p h) :
    r.Keeps q r' :=
  fun h t hh ht => hk h t (hq h t ht hh) ht

/-- Where all types are kept, others are only added behind them. -/
theorem Keeps.types_isPrefix (hk : r.Keeps (fun _ => True) r') : r.types <+: r'.types := by
  rw [List.prefix_iff_getElem?]
  intro i hi
  exact hk ⟨i⟩ r.types[i] trivial (List.getElem?_eq_getElem hi)

theorem keeps_insert (hi : r.insert name = .ok (h, r')) : r.Keeps p r' := by
  obtain ⟨-, -, -, rfl⟩ := insert_eq_ok.mp hi
  intro k t _ ht
  have hk : k ≠ ⟨r.size⟩ := by
    rintro rfl
    rw [get?_size] at ht
    cases ht
  rw [get?_append, if_neg hk, ht]

/-- The handle of a new type is that of no other. -/
theorem get?_of_insert (hi : r.insert name = .ok (h, r')) : r.get? h = none := by
  obtain ⟨-, -, rfl, -⟩ := insert_eq_ok.mp hi
  exact get?_size r

/-- A new type has no fields. -/
theorem get?_insert_self (hi : r.insert name = .ok (h, r')) : r'.get? h = some ⟨name, []⟩ := by
  obtain ⟨-, -, rfl, rfl⟩ := insert_eq_ok.mp hi
  rw [get?_append, if_pos rfl]

/-- A field is added behind the others. -/
theorem get?_pushField_self {field : Field} {t : DataType} (hp : r.pushField h field = .ok r')
    (ht : r.get? h = some t) : r'.get? h = some { t with fields := t.fields ++ [field] } := by
  obtain ⟨-, u, hu, rfl⟩ := pushField_eq_ok.mp hp
  obtain rfl : t = u := Option.some.inj (ht.symm.trans hu)
  rw [get?_set _ ht, if_pos rfl]

theorem keeps_pushField {field : Field} (hp : r.pushField h field = .ok r') :
    r.Keeps (· ≠ h) r' := by
  obtain ⟨-, t, ht, rfl⟩ := pushField_eq_ok.mp hp
  intro k u hk hu
  rw [get?_set _ ht, if_neg hk, hu]

end Registry

namespace TypeGraph

variable {g g' : TypeGraph} {name : String} {shape : Shape} {h : Handle}

/-! ## Steps that keep types -/

namespace Build

variable {α β : Type} {p q : Handle → Prop}

/-- Whether the step succeeds or fails, the types of these handles stay as they are. -/
def Keeps (p : Handle → Prop) (b : Build α) : Prop :=
  ∀ g : TypeGraph, g.registry.Keeps p (b.runFrom g).2.registry

/-- The step ends with an error. -/
def Fails (b : Build α) (g : TypeGraph) : Prop := ∃ e, (b.runFrom g).1 = .error e

theorem Keeps.of_run {b : Build α} (hb : b.Keeps p) {outcome : Except ModelError α}
    (hrun : b.runFrom g = (outcome, g')) : g.registry.Keeps p g'.registry := by
  simpa only [hrun] using hb g

theorem Keeps.mono {b : Build α} (hb : b.Keeps p) (hq : ∀ h, q h → p h) : b.Keeps q :=
  fun g => (hb g).mono fun h _ _ => hq h

theorem Keeps.pure (a : α) : Keeps p (Pure.pure a : Build α) := fun g => .refl p g.registry

theorem Keeps.get : Keeps p (MonadState.get : Build TypeGraph) := fun g => .refl p g.registry

theorem Keeps.ask (question : Registry → Except ModelError α) :
    Keeps p (TypeGraph.ask question) := by
  intro g
  rw [runFrom_ask]
  exact .refl p g.registry

theorem Keeps.bind {b : Build α} {next : α → Build β} (hb : b.Keeps p)
    (hn : ∀ a, (next a).Keeps p) : (b >>= next).Keeps p := by
  intro g
  rw [runFrom_bind]
  have hg := hb g
  cases hrun : b.runFrom g with
  | mk outcome g' =>
      rw [hrun] at hg
      cases outcome with
      | ok a => exact hg.trans (hn a g')
      | error e => exact hg

theorem Keeps.map {b : Build α} (hb : b.Keeps p) (f : α → β) : (f <$> b).Keeps p := by
  rw [map_eq_pure_bind]
  exact hb.bind fun a => .pure (f a)

/-- After a step that has found handles for types to come, only these types may be changed. -/
theorem Keeps.bind_fresh (fresh : α → Handle → Prop) {b : Build α} {next : α → Build β}
    (hb : b.Keeps p)
    (hfresh : ∀ {g a g'}, b.runFrom g = (.ok a, g') → ∀ h, fresh a h → g.registry.get? h = none)
    (hn : ∀ a, (next a).Keeps (¬ fresh a ·)) : (b >>= next).Keeps p := by
  intro g
  rw [runFrom_bind]
  have hg := hb g
  cases hrun : b.runFrom g with
  | mk outcome g' =>
      rw [hrun] at hg
      cases outcome with
      | error e => exact hg
      | ok a =>
          intro h t hp ht
          refine hn a g' h t ?_ (hg h t hp ht)
          intro hh
          rw [hfresh hrun h hh] at ht
          cases ht

theorem Keeps.insert (name : String) : Keeps p (TypeGraph.insert name) := by
  intro g
  rw [runFrom_insert]
  cases hi : g.registry.insert name with
  | ok pair => exact Registry.keeps_insert hi
  | error e => exact .refl p g.registry

theorem Keeps.pushField (h : Handle) (field : Field) :
    Keeps (· ≠ h) (TypeGraph.pushField h field) := by
  intro g
  rw [runFrom_pushField]
  cases hp : g.registry.pushField h field with
  | ok r => exact Registry.keeps_pushField hp
  | error e => exact .refl _ g.registry

end Build

open Build

variable {p : Handle → Prop}

theorem get?_of_runFrom_insert (hrun : (insert name).runFrom g = (.ok h, g')) :
    g.registry.get? h = none := by
  rw [runFrom_insert] at hrun
  cases hi : g.registry.insert name with
  | ok pair =>
      rw [hi] at hrun
      cases hrun
      exact Registry.get?_of_insert hi
  | error e =>
      rw [hi] at hrun
      cases hrun

theorem typeFor_keeps (name : String) : (typeFor name).Keeps p := by
  intro g
  rw [runFrom_typeFor]
  cases g.registry.lookup name with
  | some h => exact .refl p g.registry
  | none => exact Keeps.insert name g

/-- The field of a wrapper is added to the wrapper, which is new. -/
theorem wrap_keeps (base : Handle) (c : Cardinality) : (wrap base c).Keeps p := by
  unfold wrap
  cases wrapperNames c with
  | none => exact .pure base
  | some names =>
      refine .bind (.ask _) fun baseName => .bind .get fun g => ?_
      split
      · exact .pure _
      · refine .bind_fresh (fun wrapper h => h = wrapper) (.insert _) ?_ fun wrapper => ?_
        · rintro g wrapper g' hrun h rfl
          exact get?_of_runFrom_insert hrun
        · exact .bind (.pushField wrapper _) fun _ => .pure wrapper

theorem claim_keeps (name : String) (shape : Shape) : (claim name shape).Keeps p := by
  intro g
  rw [runFrom_claim]
  cases g.shapes.lookup name with
  | some existing =>
      simp only
      split <;> exact .refl p g.registry
  | none =>
      simp only
      split
      · exact .refl p g.registry
      · cases hi : g.registry.insert name with
        | ok pair => exact Registry.keeps_insert hi
        | error e => exact .refl p g.registry

/-- What a claim makes is new, to the registry and to the shapes. -/
theorem claim_fresh (hrun : (claim name shape).runFrom g = (.ok (.fresh h), g')) :
    g.shapes.lookup name = none ∧ ∃ r, g.registry.insert name = .ok (h, r) ∧
      g' = ⟨r, (name, shape) :: g.shapes⟩ := by
  rw [runFrom_claim] at hrun
  cases hs : g.shapes.lookup name with
  | some existing =>
      rw [hs] at hrun
      simp only at hrun
      split at hrun
      · cases hr : g.registry.resolve name <;> rw [hr] at hrun <;> cases hrun
      · cases hrun
  | none =>
      rw [hs] at hrun
      simp only at hrun
      split at hrun
      · cases hrun
      · cases hi : g.registry.insert name with
        | error e =>
            rw [hi] at hrun
            cases hrun
        | ok pair =>
            rw [hi] at hrun
            cases hrun
            exact ⟨rfl, pair.2, rfl, rfl⟩

/-- A shape that is met again leaves its type alone, and a new one has a type of its own. -/
theorem establish_keeps (name : String) (shape : Shape) {fill : Handle → Build Unit}
    (hfill : ∀ h, (fill h).Keeps (· ≠ h)) : (establish name shape fill).Keeps p := by
  refine .bind_fresh (fun claim h => claim = .fresh h) (claim_keeps name shape) ?_
    fun claim => ?_
  · rintro g _ g' hrun h rfl
    obtain ⟨-, r, hi, -⟩ := claim_fresh hrun
    exact Registry.get?_of_insert hi
  · cases claim with
    | reused k => exact .pure k
    | fresh k =>
        refine .bind ((hfill k).mono fun h hh => ?_) fun _ => .pure k
        rintro rfl
        exact hh rfl

/-! ## Structures -/

theorem parameterField_keeps (position : Nat) (parameter : Parameter) :
    (parameterField position parameter).Keeps p := by
  cases parameter with
  | atomic a => exact .pure _
  | generic n => exact .pure _
  | reference r => exact .bind (.ask _) fun _ => .pure _

theorem pushAtoms_keeps (target : Handle) (position : Nat) (atoms : List Atom) :
    (pushAtoms target position atoms).Keeps (· ≠ target) := by
  induction atoms generalizing position with
  | nil => exact .pure _
  | cons atom rest ih => exact .bind (.pushField target _) fun _ => ih _

theorem nestedField_keeps (parent : Handle) (position : Nat) (name : Option String)
    (card : Option Marker) (shape : Shape) {fill : Handle → Build Unit}
    (hfill : ∀ h, (fill h).Keeps (· ≠ h)) :
    (nestedField parent position name card shape fill).Keeps p :=
  .bind (.bind (.ask _) fun _ => .pure _)
    fun _ => .bind (establish_keeps _ _ hfill) fun _ => .pure _

mutual

/-- The types nested in a child are new or left alone, and the parent is not touched. -/
theorem nodeField_keeps {p : Handle → Prop} (parent : Handle) (position : Nat) (node : TreeNode) :
    (nodeField parent position node).Keeps p := by
  cases node with
  | single parameter => exact parameterField_keeps _ _
  | tree name nodes card =>
      exact nestedField_keeps _ _ _ _ _ fun h => pushNodes_keeps h 0 nodes
  | list l => exact nestedField_keeps _ _ _ _ _ fun h => pushAtoms_keeps h 0 l.atoms
termination_by structural node

theorem pushNodes_keeps (target : Handle) (position : Nat) (nodes : List TreeNode) :
    (pushNodes target position nodes).Keeps (· ≠ target) := by
  cases nodes with
  | nil => exact .pure _
  | cons node rest =>
      exact .bind (nodeField_keeps target (position + 1) node) fun _ =>
        .bind (.pushField target _) fun _ => pushNodes_keeps target (position + 1) rest
termination_by structural nodes

end

theorem mapPayload_keeps (target : Handle) (payload : Payload) (placement : Placement) :
    (mapPayload target payload placement).Keeps (· ≠ target) := by
  cases payload with
  | tree t => exact pushNodes_keeps target 0 t.nodes
  | atoms l => exact pushAtoms_keeps target 0 l.atoms
  | single parameter =>
      exact .bind (parameterField_keeps 1 parameter) fun _ => .pushField target _

theorem synthesize_keeps (name : String) (payload : Payload) : (synthesize name payload).Keeps p :=
  establish_keeps name _ fun h => mapPayload_keeps h payload _

/-! ## Declarations -/

theorem declareNames_keeps (declarations : List TypeDeclaration) :
    (declareNames declarations).Keeps p := by
  induction declarations with
  | nil => exact .pure _
  | cons d rest ih => exact .bind (.insert _) fun _ => .bind ih fun _ => .pure _

theorem get?_of_declareNames {declarations : List TypeDeclaration} {hs : List Handle}
    (hrun : (declareNames declarations).runFrom g = (.ok hs, g')) :
    ∀ h ∈ hs, g.registry.get? h = none := by
  induction declarations generalizing g hs with
  | nil =>
      cases hrun
      simp
  | cons d rest ih =>
      obtain ⟨k, g₁, hinsert, hrun⟩ := runFrom_bind_eq_ok.mp hrun
      obtain ⟨ks, g₂, hrest, hreturn⟩ := runFrom_bind_eq_ok.mp hrun
      cases hreturn
      refine List.forall_mem_cons.mpr ⟨get?_of_runFrom_insert hinsert, fun h hh => ?_⟩
      -- what the rest has found to be free was free before the first name was declared
      by_contra hsome
      obtain ⟨t, ht⟩ := Option.ne_none_iff_exists'.mp hsome
      have hkept : g.registry.Keeps (fun _ => True) g₁.registry :=
        (Keeps.insert d.name).of_run hinsert
      have hthere := hkept h t trivial ht
      rw [ih hrest h hh] at hthere
      cases hthere

theorem declareFields_keeps (declared : List (Handle × TypeDeclaration)) :
    (declareFields declared).Keeps (· ∉ declared.map Prod.fst) := by
  induction declared with
  | nil => exact .pure _
  | cons pair rest ih =>
      obtain ⟨h, d⟩ := pair
      refine .bind ((mapPayload_keeps h d.content .onField).mono ?_) fun _ => ih.mono ?_
      · rintro k hk rfl
        exact hk List.mem_cons_self
      · exact fun k hk hmem => hk (List.mem_cons_of_mem _ hmem)

theorem declareAll_keeps (declarations : List TypeDeclaration) :
    (declareAll declarations).Keeps p := by
  refine .bind_fresh (fun handles h => h ∈ handles) (declareNames_keeps declarations)
    get?_of_declareNames fun handles => (declareFields_keeps _).mono fun h hh hmem => hh ?_
  obtain ⟨pair, hpair, rfl⟩ := List.mem_map.mp hmem
  exact (List.of_mem_zip hpair).1

end TypeGraph

open TypeGraph

/-! ## Operations -/

variable {p : Handle → Prop}

theorem convertEndpoint_keeps (endpoint : EndpointDeclaration) :
    (convertEndpoint endpoint).Keeps p :=
  convertEndpoint_composes (P := fun b => b.Keeps p)
    ⟨.pure, .ask, .bind, typeFor_keeps, wrap_keeps, synthesize_keeps⟩ endpoint

/-! ## Steps that fail without a trace -/

namespace TypeGraph

variable {g : TypeGraph} {name : String}

/-- The step fails only where it has not changed the state. -/
def Build.Aborts {α : Type} (b : Build α) : Prop := ∀ g, b.Fails g → (b.runFrom g).2 = g

theorem insert_aborts (name : String) : (insert name).Aborts := by
  rintro g ⟨e, he⟩
  rw [runFrom_insert] at he ⊢
  cases hi : g.registry.insert name with
  | ok pair =>
      rw [hi] at he
      cases he
  | error e' => rfl

theorem pushField_aborts (h : Handle) (field : Field) : (pushField h field).Aborts := by
  rintro g ⟨e, he⟩
  rw [runFrom_pushField] at he ⊢
  cases hp : g.registry.pushField h field with
  | ok r =>
      rw [hp] at he
      cases he
  | error e' => rfl

theorem typeFor_aborts (name : String) : (typeFor name).Aborts := by
  rintro g ⟨e, he⟩
  rw [runFrom_typeFor] at he ⊢
  cases hl : g.registry.lookup name with
  | some h => rfl
  | none =>
      rw [hl] at he
      exact insert_aborts name g ⟨e, he⟩

/-- A new type is given its field, as the type that the field means is there. -/
theorem insert_pushField_aborts {base : Handle} {t : DataType}
    (hbase : g.registry.get? base = some t) {field : Field} (hfield : field.type = .named base)
    (hf : (do
      let wrapper ← insert name
      pushField wrapper field
      return wrapper : Build Handle).Fails g) :
    (insert name).Fails g := by
  obtain ⟨e, he⟩ := hf
  rw [runFrom_bind, runFrom_insert] at he
  cases hi : g.registry.insert name with
  | error e' => exact ⟨e', by rw [runFrom_insert, hi]⟩
  | ok pair =>
      obtain ⟨wrapper, r⟩ := pair
      have hkept : g.registry.Keeps (fun _ => True) r := Registry.keeps_insert hi
      have hadmits : ∀ target, field.type = .named target → (r.get? target).isSome := by
        intro target htarget
        obtain rfl : target = base := by simpa [hfield, eq_comm] using htarget
        simp [hkept target t trivial hbase]
      have hpush := Registry.pushField_eq_ok.mpr
        ⟨hadmits, _, Registry.get?_insert_self hi, rfl⟩
      rw [hi] at he
      simp only at he
      rw [runFrom_bind, runFrom_pushField, hpush] at he
      cases he

/-- A wrapper that is registered is given its field. -/
theorem wrap_aborts (base : Handle) (c : Cardinality) : (wrap base c).Aborts := by
  rintro g hf
  cases hw : wrapperNames c with
  | none =>
      obtain ⟨e, he⟩ := hf
      unfold wrap at he
      rw [hw] at he
      cases he
  | some names =>
      obtain ⟨ending, fieldName⟩ := names
      cases hn : g.registry.nameOf base with
      | error e =>
          unfold wrap
          simp only [hw]
          rw [runFrom_bind, runFrom_ask, hn]
      | ok baseName =>
          obtain ⟨t, ht, -⟩ := Registry.nameOf_eq_ok.mp hn
          unfold Build.Fails at hf
          rw [runFrom_wrap hw hn] at hf ⊢
          cases hl : g.registry.lookup (baseName ++ ending) with
          | some h => rfl
          | none =>
              rw [hl] at hf
              obtain ⟨e, he⟩ := insert_pushField_aborts ht rfl hf
              simp only
              rw [runFrom_bind, runFrom_insert] at *
              cases hi : g.registry.insert (baseName ++ ending) with
              | error e' => rfl
              | ok pair =>
                  rw [hi] at he
                  cases he

end TypeGraph

/-! ## Calls -/

/-- A cart refers to a type that has to be declared. -/
def cart : Payload := .single (.reference ⟨none, "Item", none⟩)

namespace Call

/-- A call of the builder that is given no type to fill. -/
def IsUntargeted : Call → Prop
  | typeFor _ | wrap _ _ | declareAll _ | synthesize _ _ | convert _ => True
  | insert _ | pushField _ _ | handOver | mapPayload .. => False

/-- A call that is about one type only. -/
def IsSimple : Call → Prop
  | insert _ | pushField _ _ | typeFor _ | wrap _ _ => True
  | handOver | declareAll _ | synthesize _ _ | mapPayload .. | convert _ => False

/-- The call ends with an error. -/
def Fails (g : TypeGraph) : Call → Prop
  | insert name => (TypeGraph.insert name).Fails g
  | pushField h field => (TypeGraph.pushField h field).Fails g
  | handOver => False
  | typeFor name => (TypeGraph.typeFor name).Fails g
  | wrap base c => (TypeGraph.wrap base c).Fails g
  | declareAll declarations => (TypeGraph.declareAll declarations).Fails g
  | synthesize name payload => (TypeGraph.synthesize name payload).Fails g
  | mapPayload target payload placement => (TypeGraph.mapPayload target payload placement).Fails g
  | convert endpoint => (convertEndpoint endpoint).Fails g

theorem after_keeps (g : TypeGraph) {call : Call} (hu : call.IsUntargeted) :
    g.registry.Keeps (fun _ => True) (call.after g).registry := by
  cases call with
  | typeFor name => exact typeFor_keeps name g
  | wrap base c => exact wrap_keeps base c g
  | declareAll declarations => exact declareAll_keeps declarations g
  | synthesize name payload => exact synthesize_keeps name payload g
  | convert endpoint => exact convertEndpoint_keeps endpoint g
  | insert name => exact hu.elim
  | pushField h field => exact hu.elim
  | handOver => exact hu.elim
  | mapPayload target payload placement => exact hu.elim

theorem after_of_fails {g : TypeGraph} {call : Call} (hs : call.IsSimple) (hf : call.Fails g) :
    call.after g = g := by
  cases call with
  | insert name => exact insert_aborts name g hf
  | pushField h field => exact pushField_aborts h field g hf
  | typeFor name => exact typeFor_aborts name g hf
  | wrap base c => exact wrap_aborts base c g hf
  | handOver => exact hs.elim
  | declareAll declarations => exact hs.elim
  | synthesize name payload => exact hs.elim
  | mapPayload target payload placement => exact hs.elim
  | convert endpoint => exact hs.elim

/-- From any state, whether they succeed or fail: calls that are given no type to fill leave all
types as they are and add others behind them; adding the fields of a structure to a type changes
no other and adds to its fields at their end; and a simple call that fails changes nothing. -/
theorem after_frame (g : TypeGraph) :
    (∀ call : Call, call.IsUntargeted → g.registry.types <+: (call.after g).registry.types) ∧
    (∀ target payload placement,
      g.registry.Keeps (· ≠ target)
        (after g (.mapPayload target payload placement)).registry ∧
      g.registry.Extends (after g (.mapPayload target payload placement)).registry) ∧
    ∀ call : Call, call.IsSimple → call.Fails g → call.after g = g := by
  refine ⟨?_, ?_, ?_⟩
  · intro call hu
    exact (after_keeps g hu).types_isPrefix
  · intro target payload placement
    have hevolves := mapPayload_evolves target payload placement g
    exact ⟨mapPayload_keeps target payload placement g, hevolves.grows.extends⟩
  · intro call hs hf
    exact after_of_fails hs hf

/-- A cart of items that are not declared leaves an order alone, and what is no type is not
wrapped. -/
theorem after_frame_order :
    Fails (session [.typeFor "Order"]) (.synthesize "Cart" cart) ∧
      (session [.typeFor "Order"]).registry.types <+:
        (after (session [.typeFor "Order"]) (.synthesize "Cart" cart)).registry.types ∧
      Fails (session [.typeFor "Order"]) (.wrap ⟨1⟩ .list) ∧
      after (session [.typeFor "Order"]) (.wrap ⟨1⟩ .list) = session [.typeFor "Order"] := by
  obtain ⟨huntargeted, -, hsimple⟩ := after_frame (session [.typeFor "Order"])
  have hwrap : Fails (session [.typeFor "Order"]) (.wrap ⟨1⟩ .list) :=
    ⟨.unknownHandle ⟨1⟩, by decide⟩
  exact ⟨⟨.unresolvedType "Item", by decide⟩, huntargeted (.synthesize "Cart" cart) trivial, hwrap,
    hsimple (.wrap ⟨1⟩ .list) trivial hwrap⟩

end Call

end ServiceContract
