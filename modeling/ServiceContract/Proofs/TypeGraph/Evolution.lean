import ServiceContract.Interface
import ServiceContract.Proofs.Registry.Growth
import ServiceContract.Proofs.TypeGraph.Run

/-!
# How the type graph evolves

Building changes the state in three ways only. Whatever a step of building does, also before it
fails, is some number of these changes: nothing is taken away, and a name keeps the shape that it
stands for.
-/

namespace ServiceContract

namespace TypeGraph

variable {p : Field → Prop} {g g' : TypeGraph}

/-! ## Changes of the state -/

/-- The state changes by a new type, by a new field that satisfies `p`, or by a new type for the
shape of a name that stood for none. -/
inductive Change (p : Field → Prop) : TypeGraph → TypeGraph → Prop where
  | insert {g : TypeGraph} {r : Registry} {name : String} {h : Handle} :
      g.registry.insert name = .ok (h, r) → Change p g { g with registry := r }
  | pushField {g : TypeGraph} {r : Registry} {h : Handle} {field : Field} :
      p field → g.registry.pushField h field = .ok r → Change p g { g with registry := r }
  | claim {g : TypeGraph} {r : Registry} {name : String} {h : Handle} {shape : Shape} :
      g.shapes.lookup name = none → g.registry.insert name = .ok (h, r) →
        Change p g ⟨r, (name, shape) :: g.shapes⟩

/-- The state evolves by any number of changes. -/
def Evolves (p : Field → Prop) : TypeGraph → TypeGraph → Prop := Relation.ReflTransGen (Change p)

theorem Change.step (hc : Change p g g') : Registry.Step p g.registry g'.registry := by
  cases hc with
  | insert hi => exact .insert hi
  | pushField hf hp => exact .pushField hf hp
  | claim _ hi => exact .insert hi

theorem Change.shape (hc : Change p g g') {name : String} {shape : Shape}
    (hs : g.shapes.lookup name = some shape) : g'.shapes.lookup name = some shape := by
  cases hc with
  | insert => exact hs
  | pushField => exact hs
  | @claim r new h other hnew hi =>
      have hne : name ≠ new := by
        rintro rfl
        rw [hnew] at hs
        cases hs
      simpa [List.lookup_cons, beq_false_of_ne hne] using hs

theorem Change.mono {q : Field → Prop} (hpq : ∀ field, p field → q field) (hc : Change p g g') :
    Change q g g' := by
  cases hc with
  | insert hi => exact .insert hi
  | pushField hf hp => exact .pushField (hpq _ hf) hp
  | claim hs hi => exact .claim hs hi

theorem Evolves.grows (he : Evolves p g g') : Registry.Grows p g.registry g'.registry := by
  induction he with
  | refl => exact .refl
  | tail _ hc ih => exact ih.tail hc.step

/-- A name stands for the same shape from then on. -/
theorem Evolves.shape (he : Evolves p g g') {name : String} {shape : Shape}
    (hs : g.shapes.lookup name = some shape) : g'.shapes.lookup name = some shape := by
  induction he with
  | refl => exact hs
  | tail _ hc ih => exact hc.shape ih

theorem Evolves.mono {q : Field → Prop} (hpq : ∀ field, p field → q field) (he : Evolves p g g') :
    Evolves q g g' :=
  Relation.ReflTransGen.mono (fun _ _ hc => hc.mono hpq) g g' he

/-! ## Steps by which the state evolves -/

namespace Build

variable {α β : Type}

/-- From every state the state evolves, whether the step succeeds or fails. -/
def Evolves (p : Field → Prop) (b : Build α) : Prop :=
  ∀ g, TypeGraph.Evolves p g (b.runFrom g).2

/-- Some state lets the step succeed with this result. -/
def CanReturn (b : Build α) (a : α) : Prop := ∃ g g', b.runFrom g = (.ok a, g')

theorem Evolves.of_run {b : Build α} (hb : b.Evolves p) {outcome : Except ModelError α}
    (hrun : b.runFrom g = (outcome, g')) : TypeGraph.Evolves p g g' := by
  simpa only [hrun] using hb g

theorem Evolves.pure (a : α) : Evolves p (Pure.pure a : Build α) := fun _ => .refl

theorem Evolves.get : Evolves p (MonadState.get : Build TypeGraph) := fun _ => .refl

theorem Evolves.ask (question : Registry → Except ModelError α) :
    Evolves p (TypeGraph.ask question) := by
  intro g
  rw [runFrom_ask]
  exact .refl

theorem Evolves.bind {b : Build α} {next : α → Build β} (hb : b.Evolves p)
    (hn : ∀ a, b.CanReturn a → (next a).Evolves p) : (b >>= next).Evolves p := by
  intro g
  rw [runFrom_bind]
  have hg := hb g
  cases hrun : b.runFrom g with
  | mk outcome g' =>
      rw [hrun] at hg
      cases outcome with
      | ok a => exact hg.trans (hn a ⟨g, g', hrun⟩ g')
      | error e => exact hg

theorem Evolves.map {b : Build α} (hb : b.Evolves p) (f : α → β) : (f <$> b).Evolves p := by
  rw [map_eq_pure_bind]
  exact hb.bind fun a _ => .pure (f a)

theorem Evolves.weaken {b : Build α} (hb : b.Evolves p) : b.Evolves fun _ => True :=
  fun g => (hb g).mono fun _ _ => trivial

/-- A result of two steps is a result of the second after some result of the first. -/
theorem CanReturn.bind {b : Build α} {next : α → Build β} {c : β}
    (h : (b >>= next).CanReturn c) : ∃ a, b.CanReturn a ∧ (next a).CanReturn c := by
  obtain ⟨g, g', hrun⟩ := h
  obtain ⟨a, g₁, hb, hnext⟩ := runFrom_bind_eq_ok.mp hrun
  exact ⟨a, ⟨g, g₁, hb⟩, g₁, g', hnext⟩

theorem CanReturn.eq {a c : α} (h : (Pure.pure a : Build α).CanReturn c) : c = a := by
  obtain ⟨g, g', hrun⟩ := h
  cases hrun
  rfl

theorem Evolves.insert (name : String) : Evolves p (TypeGraph.insert name) := by
  intro g
  rw [runFrom_insert]
  cases hi : g.registry.insert name with
  | ok pair => exact .single (.insert hi)
  | error e => exact .refl

theorem Evolves.pushField {field : Field} (hf : p field) (h : Handle) :
    Evolves p (TypeGraph.pushField h field) := by
  intro g
  rw [runFrom_pushField]
  cases hp : g.registry.pushField h field with
  | ok r => exact .single (.pushField hf hp)
  | error e => exact .refl

end Build

end TypeGraph

open TypeGraph.Build

/-! ## The builder adds fields of one level of cardinality -/

/-- A field does not both hold a list and stay absent. -/
def Field.OneLevel (field : Field) : Prop := ¬ (field.isList ∧ field.isNullable)

theorem Field.oneLevel_ofCardinality (name : String) (type : FieldType) (c : Cardinality) :
    (Field.ofCardinality name type c).OneLevel := by
  cases c <;> simp [OneLevel, ofCardinality]

namespace TypeGraph

variable {p : Field → Prop}

theorem typeFor_evolves (name : String) : (typeFor name).Evolves p := by
  intro g
  rw [runFrom_typeFor]
  cases g.registry.lookup name with
  | some h => exact .refl
  | none => exact Evolves.insert name g

theorem wrap_evolves (base : Handle) (c : Cardinality) :
    (wrap base c).Evolves Field.OneLevel := by
  unfold wrap
  cases wrapperNames c with
  | none => exact .pure base
  | some names =>
      refine .bind (.ask _) fun baseName _ => .bind .get fun g _ => ?_
      split
      · exact .pure _
      · refine .bind (.insert _) fun wrapper _ => .bind (.pushField ?_ _) fun _ _ => .pure _
        exact Field.oneLevel_ofCardinality _ _ _

theorem claim_evolves (name : String) (shape : Shape) : (claim name shape).Evolves p := by
  intro g
  rw [runFrom_claim]
  cases hs : g.shapes.lookup name with
  | some existing =>
      simp only
      split <;> exact .refl
  | none =>
      simp only
      split
      · exact .refl
      · cases hi : g.registry.insert name with
        | ok pair => exact .single (.claim hs hi)
        | error e => exact .refl

/-- The field of a single parameter has one level of cardinality. -/
theorem parameterField_oneLevel {position : Nat} {parameter : Parameter} {field : Field}
    (h : (parameterField position parameter).CanReturn field) : field.OneLevel := by
  cases parameter with
  | atomic a =>
      rw [CanReturn.eq h]
      exact Field.oneLevel_ofCardinality _ _ _
  | generic n =>
      rw [CanReturn.eq h]
      exact Field.oneLevel_ofCardinality _ _ _
  | reference r =>
      obtain ⟨target, _, hfield⟩ := CanReturn.bind h
      rw [CanReturn.eq hfield]
      exact Field.oneLevel_ofCardinality _ _ _

theorem parameterField_evolves (position : Nat) (parameter : Parameter) :
    (parameterField position parameter).Evolves p := by
  cases parameter with
  | atomic a => exact .pure _
  | generic n => exact .pure _
  | reference r => exact .bind (.ask _) fun _ _ => .pure _

theorem pushAtoms_evolves (target : Handle) (position : Nat) (atoms : List Atom) :
    (pushAtoms target position atoms).Evolves Field.OneLevel := by
  induction atoms generalizing position with
  | nil => exact .pure _
  | cons atom rest ih =>
      exact .bind (.pushField (Field.oneLevel_ofCardinality _ _ _) _) fun _ _ => ih _

theorem nestedName_evolves (parent : Handle) (child : String) :
    (nestedName parent child).Evolves p :=
  .bind (.ask _) fun _ _ => .pure _

theorem establish_evolves (name : String) (shape : Shape) {fill : Handle → Build Unit}
    (hfill : ∀ h, (fill h).Evolves p) : (establish name shape fill).Evolves p := by
  refine .bind (claim_evolves _ _) fun claim _ => ?_
  cases claim with
  | fresh h => exact .bind (hfill h) fun _ _ => .pure _
  | reused h => exact .pure _

theorem nestedField_evolves (parent : Handle) (position : Nat) (name : Option String)
    (card : Option Marker) (shape : Shape) {fill : Handle → Build Unit}
    (hfill : ∀ h, (fill h).Evolves p) :
    (nestedField parent position name card shape fill).Evolves p :=
  .bind (nestedName_evolves _ _) fun _ _ => .bind (establish_evolves _ _ hfill) fun _ _ => .pure _

/-- The field of a nested structure has one level of cardinality, whatever its type. -/
theorem nestedField_oneLevel {parent : Handle} {position : Nat} {name : Option String}
    {card : Option Marker} {shape : Shape} {fill : Handle → Build Unit} {field : Field}
    (h : (nestedField parent position name card shape fill).CanReturn field) :
    field.OneLevel := by
  obtain ⟨_, _, h⟩ := CanReturn.bind h
  obtain ⟨_, _, h⟩ := CanReturn.bind h
  rw [CanReturn.eq h]
  exact Field.oneLevel_ofCardinality _ _ _

theorem nodeField_oneLevel {parent : Handle} {position : Nat} {node : TreeNode} {field : Field}
    (h : (nodeField parent position node).CanReturn field) : field.OneLevel := by
  cases node with
  | single parameter => exact parameterField_oneLevel h
  | tree name nodes card => exact nestedField_oneLevel h
  | list l => exact nestedField_oneLevel h

mutual

theorem nodeField_evolves (parent : Handle) (position : Nat) (node : TreeNode) :
    (nodeField parent position node).Evolves Field.OneLevel := by
  cases node with
  | single parameter => exact parameterField_evolves _ _
  | tree name nodes card =>
      exact nestedField_evolves _ _ _ _ _ fun h => pushNodes_evolves h 0 nodes
  | list l => exact nestedField_evolves _ _ _ _ _ fun h => pushAtoms_evolves h 0 l.atoms
termination_by structural node

theorem pushNodes_evolves (target : Handle) (position : Nat) (nodes : List TreeNode) :
    (pushNodes target position nodes).Evolves Field.OneLevel := by
  cases nodes with
  | nil => exact .pure _
  | cons node rest =>
      refine .bind (nodeField_evolves target (position + 1) node) fun field hfield => ?_
      exact .bind (.pushField (nodeField_oneLevel hfield) _) fun _ _ =>
        pushNodes_evolves target (position + 1) rest
termination_by structural nodes

end

theorem mapPayload_evolves (target : Handle) (payload : Payload) (placement : Placement) :
    (mapPayload target payload placement).Evolves Field.OneLevel := by
  cases payload with
  | tree t => exact pushNodes_evolves target 0 t.nodes
  | atoms l => exact pushAtoms_evolves target 0 l.atoms
  | single parameter =>
      refine .bind (parameterField_evolves 1 parameter) fun field hfield => .pushField ?_ target
      cases placement with
      | onField => exact parameterField_oneLevel hfield
      | onWrapper => simp [Field.OneLevel]

theorem declareNames_evolves (declarations : List TypeDeclaration) :
    (declareNames declarations).Evolves p := by
  induction declarations with
  | nil => exact .pure _
  | cons d rest ih => exact .bind (.insert _) fun _ _ => .bind ih fun _ _ => .pure _

theorem declareFields_evolves (declared : List (Handle × TypeDeclaration)) :
    (declareFields declared).Evolves Field.OneLevel := by
  induction declared with
  | nil => exact .pure _
  | cons pair rest ih => exact .bind (mapPayload_evolves _ _ _) fun _ _ => ih

theorem declareAll_evolves (declarations : List TypeDeclaration) :
    (declareAll declarations).Evolves Field.OneLevel :=
  .bind (declareNames_evolves declarations) fun _ _ => declareFields_evolves _

theorem synthesize_evolves (name : String) (payload : Payload) :
    (synthesize name payload).Evolves Field.OneLevel :=
  establish_evolves name _ fun h => mapPayload_evolves h payload _

/-- A property of steps that the steps have of which operations are made, and that goes over from
steps to what is composed of them. -/
structure Build.Composes (P : {α : Type} → Build α → Prop) : Prop where
  pure : ∀ {α : Type} (a : α), P (Pure.pure a : Build α)
  ask : ∀ {α : Type} (question : Registry → Except ModelError α), P (TypeGraph.ask question)
  bind : ∀ {α β : Type} {b : Build α} {next : α → Build β},
    P b → (∀ a, P (next a)) → P (b >>= next)
  typeFor : ∀ name, P (TypeGraph.typeFor name)
  wrap : ∀ base c, P (TypeGraph.wrap base c)
  synthesize : ∀ name payload, P (TypeGraph.synthesize name payload)

end TypeGraph

open TypeGraph

/-! ## Operations -/

section

variable {P : {α : Type} → Build α → Prop}

theorem payloadType_composes (hP : Build.Composes P) (name : String) (payload : Payload) :
    P (payloadType name payload) := by
  unfold payloadType
  cases payload.reference? with
  | some r => exact hP.bind (hP.ask _) fun _ => hP.wrap _ _
  | none => exact hP.bind (hP.synthesize name payload) fun _ => hP.wrap _ _

theorem requestType_composes (hP : Build.Composes P) (operation : OperationDeclaration) :
    P (requestType operation) := by
  unfold requestType
  cases operation.request with
  | some payload => exact payloadType_composes hP _ payload
  | none => exact hP.typeFor _

theorem responseType_composes (hP : Build.Composes P) (operation : OperationDeclaration) :
    P (responseType operation) := by
  unfold responseType
  cases operation.response with
  | some payload => exact payloadType_composes hP _ payload
  | none => exact hP.typeFor _

theorem convertOperations_composes (hP : Build.Composes P)
    (operations : List OperationDeclaration) : P (convertOperations operations) := by
  induction operations with
  | nil => exact hP.pure _
  | cons operation rest ih =>
      refine hP.bind ?_ fun _ => hP.bind ih fun _ => hP.pure _
      exact hP.bind (requestType_composes hP operation) fun _ =>
        hP.bind (responseType_composes hP operation) fun _ => hP.pure _

/-- What the steps have of which operations are made, the conversion of endpoints has. -/
theorem convertEndpoint_composes (hP : Build.Composes P) (endpoint : EndpointDeclaration) :
    P (convertEndpoint endpoint) :=
  hP.bind (convertOperations_composes hP endpoint.operations) fun _ => hP.pure _

end

theorem convertEndpoint_evolves (endpoint : EndpointDeclaration) :
    (convertEndpoint endpoint).Evolves Field.OneLevel :=
  convertEndpoint_composes (P := fun b => b.Evolves Field.OneLevel)
    ⟨.pure, .ask, fun hb hn => .bind hb fun a _ => hn a, typeFor_evolves, wrap_evolves,
      synthesize_evolves⟩ endpoint

end ServiceContract
