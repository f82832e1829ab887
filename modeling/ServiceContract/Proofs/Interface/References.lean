import ServiceContract.Proofs.Interface.Expansion

/-!
# References

A reference is resolved against all types that are registered by then, and not only against the
declared ones. One that is not declared is accepted where a type that was made before it has its
name.
-/

namespace ServiceContract

open TypeGraph

/-! ## Targets of references -/

def Parameter.references : Parameter → List String
  | .reference r => [r.target]
  | .atomic _ | .generic _ => []

mutual

/-- The types that a child of a tree refers to, at any depth. -/
def TreeNode.references : TreeNode → List String
  | .single p => p.references
  | .tree _ nodes _ => nodeReferences nodes
  | .list _ => []
termination_by structural node => node

def nodeReferences : List TreeNode → List String
  | [] => []
  | node :: rest => node.references ++ nodeReferences rest
termination_by structural nodes => nodes

end

def Payload.references : Payload → List String
  | .tree t => nodeReferences t.nodes
  | .atoms _ => []
  | .single p => p.references

def Message.references (m : Message) : List String :=
  match m.payload with
  | some p => p.references
  | none => []

/-- The types that declarations and endpoints refer to, in order. -/
def references (ts : List TypeDeclaration) (es : List EndpointDeclaration) : List String :=
  ts.flatMap (·.content.references) ++ (messages es).flatMap (·.references)

/-- Every type that is referred to is declared. -/
def ReferencesDeclared (ts : List TypeDeclaration) (es : List EndpointDeclaration) : Prop :=
  ∀ t ∈ references ts es, t ∈ ts.map (·.name)

/-! ## Plans ask for all references -/

def Event.target? : Event → Option String
  | .refer t => some t
  | .register _ => none

theorem Parameter.events_targets (p : Parameter) :
    p.events.filterMap Event.target? = p.references := by
  cases p <;> rfl

mutual

theorem TreeNode.events_targets (owner : String) (position : Nat) (node : TreeNode) :
    (node.events owner position).filterMap Event.target? = node.references := by
  cases node with
  | single p => exact p.events_targets
  | tree name nodes card =>
      rw [TreeNode.events, TreeNode.references]
      exact nodeEvents_targets (nestedTypeName owner position name) 0 nodes
  | list l => rfl
termination_by structural node

theorem nodeEvents_targets (owner : String) (position : Nat) (nodes : List TreeNode) :
    (nodeEvents owner position nodes).filterMap Event.target? = nodeReferences nodes := by
  cases nodes with
  | nil => rfl
  | cons node rest =>
      have hnode := TreeNode.events_targets owner (position + 1) node
      have hrest := nodeEvents_targets owner (position + 1) rest
      simp [nodeEvents, nodeReferences, List.filterMap_append, hnode, hrest]
termination_by structural nodes

end

theorem Payload.events_targets (owner : String) (p : Payload) :
    (p.events owner).filterMap Event.target? = p.references := by
  cases p with
  | tree t => exact nodeEvents_targets owner 0 t.nodes
  | atoms l => rfl
  | single p => exact p.events_targets

theorem Message.events_targets (m : Message) :
    m.events.filterMap Event.target? = m.references := by
  unfold Message.events Message.references
  cases m.payload with
  | none => rfl
  | some p =>
      have hwrapper : (wrapperEvents (p.baseName m.inlineName) (.ofPayload (some p))).filterMap
          Event.target? = [] := by
        unfold wrapperEvents
        split <;> rfl
      simp only [List.filterMap_append, hwrapper, List.append_nil]
      unfold Payload.baseEvents
      cases hr : p.reference? with
      | none => exact p.events_targets m.inlineName
      | some r =>
          cases p with
          | tree t => cases hr
          | atoms l => cases hr
          | single q =>
              cases q with
              | reference r' =>
                  cases hr
                  rfl
              | atomic a => cases hr
              | generic n => cases hr

/-- What the plan refers to is what declarations and endpoints do. -/
theorem plan_targets (ts : List TypeDeclaration) (es : List EndpointDeclaration) :
    (plan ts es).filterMap Event.target? = references ts es := by
  have hnames : (ts.map fun d => Event.register d.entry).filterMap Event.target? = [] := by
    rw [List.filterMap_map]
    exact List.filterMap_eq_nil_iff.mpr fun d _ => rfl
  simp only [plan, declarationEvents, references, flatMap_events_eq, List.filterMap_append, hnames,
    List.filterMap_flatMap, Payload.events_targets, Message.events_targets, List.nil_append]

theorem refer_mem_plan {ts : List TypeDeclaration} {es : List EndpointDeclaration} {t : String} :
    .refer t ∈ plan ts es ↔ t ∈ references ts es := by
  rw [← plan_targets, List.mem_filterMap]
  constructor
  · intro ht
    exact ⟨_, ht, rfl⟩
  · rintro ⟨event, hevent, ht⟩
    cases event with
    | register e => cases ht
    | refer t' =>
        cases ht
        exact hevent

/-! ## References that fail -/

namespace Ledger

variable {L L' : Ledger} {events : List Event} {t : String}

/-- The registered names are those that the events register. -/
theorem mem_names_run (h : run [] events = .ok L) :
    t ∈ L.names ↔ t ∈ (events.filterMap Event.record?).map (·.name) := by
  rw [Registers.entries events [] [] L rfl h, List.nil_append, List.mem_eraseDups]

/-- What the events refer to has been registered by then. -/
theorem mem_names_of_refer (h : L.run events = .ok L') (ht : .refer t ∈ events) :
    t ∈ L'.names := by
  obtain ⟨before, after, rfl⟩ := List.append_of_mem ht
  obtain ⟨L₁, -, h₁⟩ := run_append_eq_ok.mp h
  obtain ⟨L₂, hstep, hrun⟩ := run_cons_eq_ok.mp h₁
  obtain ⟨hmem, rfl⟩ := step_refer_eq_ok.mp hstep
  exact (names_mono (run_extends hrun)).subset hmem

theorem step_ne_unresolvedType (ht : t ∈ L.names) (event : Event) :
    L.step event ≠ .error (.unresolvedType t) := by
  cases event with
  | refer target =>
      rw [step_refer]
      split
      · simp
      · next hn =>
          intro h
          cases h
          exact hn ht
  | register e =>
      rw [step_register]
      split
      · split <;> simp
      · split <;> simp

/-- A name that is registered does not fail to be resolved. -/
theorem run_ne_unresolvedType (ht : t ∈ L.names) : L.run events ≠ .error (.unresolvedType t) := by
  induction events generalizing L with
  | nil => simp
  | cons event rest ih =>
      rw [run_cons]
      cases hstep : L.step event with
      | ok L₁ => exact ih ((names_mono (step_extends hstep)).subset ht)
      | error e =>
          intro h
          cases h
          exact step_ne_unresolvedType ht event hstep

/-- A reference that is reached fails exactly when nothing before it has registered its target. -/
theorem run_refer_error_iff {before after : List Event} (h : run [] before = .ok L) :
    run [] (before ++ .refer t :: after) = .error (.unresolvedType t) ↔
      t ∉ (before.filterMap Event.record?).map (·.name) := by
  rw [← mem_names_run h, run_append, h]
  show L.run (.refer t :: after) = .error (.unresolvedType t) ↔ t ∉ L.names
  constructor
  · intro herr ht
    exact run_ne_unresolvedType ht herr
  · intro hn
    exact run_cons_of_error (step_refer_of_notMem hn) after

end Ledger

/-! ## References that are accepted -/

/-- Where a model is built, every reference is to a declared type exactly when none is to an
undeclared type that was made. A reference that building reaches is refused exactly when no type
that was registered before it has its name. -/
theorem Model.undeclared_reference (ts : List TypeDeclaration) (es : List EndpointDeclaration) :
    (∀ m, Model.build ts es = .ok m →
      (ReferencesDeclared ts es ↔
        ∀ t ∈ references ts es, t ∈ (synthesized ts es).map (·.name) → t ∈ ts.map (·.name))) ∧
    ∀ before t after L, plan ts es = before ++ .refer t :: after →
      Ledger.run [] before = .ok L →
        (Model.build ts es = .error (.unresolvedType t) ↔
          t ∉ (before.filterMap Event.record?).map (·.name)) := by
  constructor
  · intro m h
    obtain ⟨L, hL, -⟩ := Model.build_eq_ok h
    constructor
    · intro hdeclared t ht _
      exact hdeclared t ht
    · intro hsynthesized t ht
      have hmem := Ledger.mem_names_of_refer hL (refer_mem_plan.mpr ht)
      rw [Ledger.mem_names_run hL, plan_entries, expansion, List.map_append,
        List.mem_append] at hmem
      rcases hmem with hmem | hmem
      · simpa [TypeDeclaration.entry] using hmem
      · exact hsynthesized t ht hmem
  · intro before t after L hplan hL
    rw [Model.build_eq_error, hplan]
    exact Ledger.run_refer_error_iff hL

/-- The answer to `reset` refers to what stands in for that to `purge`, and nothing is declared. -/
def resetEndpoints : List EndpointDeclaration :=
  [⟨"orders", none, [⟨"purge", none, none, none, none⟩,
    ⟨"reset", none, none, none, some (.single (.reference ⟨none, "VoidResponse", none⟩))⟩]⟩]

/-- The same operations, but what `reset` refers to has not been made when it is reached. -/
def hastyEndpoints : List EndpointDeclaration :=
  resetEndpoints.map fun e => { e with operations := e.operations.reverse }

theorem Model.undeclared_reference_hasty :
    plan [] hastyEndpoints = [.register ⟨"ResetRequestMessage", .substitute⟩] ++
      .refer "VoidResponse" :: [.register ⟨"PurgeRequestMessage", .substitute⟩,
        .register ⟨"VoidResponse", .substitute⟩] ∧
      Model.build [] hastyEndpoints = .error (.unresolvedType "VoidResponse") := by
  have hplan : plan [] hastyEndpoints = [.register ⟨"ResetRequestMessage", .substitute⟩] ++
      .refer "VoidResponse" :: [.register ⟨"PurgeRequestMessage", .substitute⟩,
        .register ⟨"VoidResponse", .substitute⟩] := by decide
  have hrun : Ledger.run [] [.register ⟨"ResetRequestMessage", .substitute⟩] =
      .ok [⟨"ResetRequestMessage", .substitute⟩] := by decide
  obtain ⟨-, hrefused⟩ := Model.undeclared_reference [] hastyEndpoints
  exact ⟨hplan, (hrefused _ _ _ _ hplan hrun).mpr (by decide)⟩

theorem Model.build_undeclared_reset :
    (∃ m, Model.build [] resetEndpoints = .ok m) ∧ ¬ ReferencesDeclared [] resetEndpoints := by
  constructor
  · have h : (Model.build [] resetEndpoints).isOk = true := by decide +kernel
    cases hm : Model.build [] resetEndpoints with
    | ok m => exact ⟨m, rfl⟩
    | error e =>
        rw [hm] at h
        cases h
  · intro h
    have hmem := h "VoidResponse" (by decide)
    cases hmem

end ServiceContract
