import ServiceContract.Proofs.Interface.Plan

/-!
# Endpoints that are appended

What is appended to the endpoints comes last in the plan. Building therefore fails as before, or
goes on from the model that was built before: its types and operations stay as they are.
-/

namespace ServiceContract

open TypeGraph

/-! ## Appending -/

/-- Endpoints are appended to endpoints, or operations to the last of them, any number of times. -/
inductive Appends : List EndpointDeclaration → List EndpointDeclaration → Prop where
  | endpoints (es more : List EndpointDeclaration) : Appends es (es ++ more)
  | operations (es : List EndpointDeclaration) (e : EndpointDeclaration)
      (more : List OperationDeclaration) :
      Appends (es ++ [e]) (es ++ [{ e with operations := e.operations ++ more }])
  | trans {es es₁ es₂ : List EndpointDeclaration} : Appends es es₁ → Appends es₁ es₂ →
      Appends es es₂

/-- An endpoint declares what another does and possibly more operations behind. -/
structure EndpointDeclaration.IsPrefix (e e' : EndpointDeclaration) : Prop where
  name_eq : e'.name = e.name
  description_eq : e'.description = e.description
  operations : e.operations <+: e'.operations

/-- An endpoint has the operations of another and possibly more behind. -/
structure Endpoint.IsPrefix (e e' : Endpoint) : Prop where
  name_eq : e'.name = e.name
  description_eq : e'.description = e.description
  operations : e.operations <+: e'.operations

/-- A model goes on from another one: its types have their handles, names and fields, and every
endpoint has its operations, with the handles of their requests and responses. -/
structure Model.Extends (m m' : Model) : Prop where
  types : m.registry.types <+: m'.registry.types
  lookups : ∀ name h, m.registry.lookup name = some h → m'.registry.lookup name = some h
  endpoints : ∀ (i : Nat) (e : Endpoint), m.endpoints[i]? = some e →
    ∃ e', m'.endpoints[i]? = some e' ∧ e.IsPrefix e'

variable {ts : List TypeDeclaration} {es es' : List EndpointDeclaration}

theorem EndpointDeclaration.IsPrefix.refl (e : EndpointDeclaration) : e.IsPrefix e :=
  ⟨rfl, rfl, List.prefix_refl _⟩

theorem EndpointDeclaration.IsPrefix.trans {e₁ e₂ e₃ : EndpointDeclaration} (h : e₁.IsPrefix e₂)
    (h' : e₂.IsPrefix e₃) : e₁.IsPrefix e₃ :=
  ⟨h'.name_eq.trans h.name_eq, h'.description_eq.trans h.description_eq,
    h.operations.trans h'.operations⟩

/-- Every endpoint stays in its place. -/
theorem Appends.exists_isPrefix (h : Appends es es') {i : Nat} {e : EndpointDeclaration}
    (he : es[i]? = some e) : ∃ e', es'[i]? = some e' ∧ e.IsPrefix e' := by
  induction h generalizing e with
  | endpoints es more =>
      obtain ⟨hi, -⟩ := List.getElem?_eq_some_iff.mp he
      exact ⟨e, by rw [List.getElem?_append_left hi, he], .refl e⟩
  | operations es last more =>
      rcases Nat.lt_or_ge i es.length with hi | hi
      · rw [List.getElem?_append_left hi] at he ⊢
        exact ⟨e, he, .refl e⟩
      · rw [List.getElem?_append_right hi] at he ⊢
        cases hk : i - es.length with
        | zero =>
            rw [hk] at he
            cases he
            exact ⟨_, rfl, rfl, rfl, List.prefix_append _ _⟩
        | succ k =>
            rw [hk] at he
            cases he
  | trans _ _ ih ih' =>
      obtain ⟨e₁, he₁, h₁⟩ := ih he
      obtain ⟨e₂, he₂, h₂⟩ := ih' he₁
      exact ⟨e₂, he₂, h₁.trans h₂⟩

/-- What is appended comes last in the plan. -/
theorem Appends.plan_isPrefix (h : Appends es es') (ts : List TypeDeclaration) :
    plan ts es <+: plan ts es' := by
  induction h with
  | endpoints es more =>
      rw [plan, plan, List.flatMap_append, ← List.append_assoc]
      exact List.prefix_append _ _
  | operations es e more =>
      simp only [plan, List.flatMap_append, List.flatMap_singleton, EndpointDeclaration.events,
        ← List.append_assoc]
      exact List.prefix_append _ _
  | trans _ _ ih ih' => exact ih.trans ih'

/-! ## Models -/

/-- Appending to an interface that is not built changes nothing. -/
theorem Appends.build_eq_error (h : Appends es es') {err : ModelError}
    (herr : Model.build ts es = .error err) : Model.build ts es' = .error err := by
  obtain ⟨extra, hplan⟩ := h.plan_isPrefix ts
  rw [Model.build_eq_error] at herr ⊢
  rw [← hplan, Ledger.run_append, herr]
  rfl

theorem EndpointDeclaration.IsPrefix.resolved {e e' : EndpointDeclaration} (h : e.IsPrefix e')
    (names : List String) : (e.resolved names).IsPrefix (e'.resolved names) :=
  ⟨h.name_eq, h.description_eq, h.operations.map _⟩

/-- The registry of a longer ledger has the types of a shorter one, under their names. -/
theorem Registry.Mirrors.types_isPrefix {r r' : Registry} {L L' : Ledger} {pending : Pending}
    (hm : r.Mirrors L pending) (hm' : r'.Mirrors L' pending) (hp : L <+: L') :
    r.types <+: r'.types := by
  rw [hm.types_eq, hm'.types_eq, ← hm.map_dataType_mono (Ledger.names_mono hp) fun _ _ => rfl]
  exact hp.map _

/-- A model is extended by what is appended to its interface. -/
theorem Appends.extends (h : Appends es es') {m m' : Model} (hbuild : Model.build ts es = .ok m)
    (hbuild' : Model.build ts es' = .ok m') : m.Extends m' := by
  obtain ⟨L, hL, hm⟩ := Model.build_eq_ok hbuild
  obtain ⟨L', hL', hm'⟩ := Model.build_eq_ok hbuild'
  obtain ⟨extra, hplan⟩ := h.plan_isPrefix ts
  rw [← hplan, Ledger.run_append, hL] at hL'
  have hp : L <+: L' := Ledger.run_extends hL'
  constructor
  case types => exact hm.registry.types_isPrefix hm'.registry hp
  case lookups =>
    intro name k hk
    rw [hm.registry.lookup_eq] at hk
    rw [hm'.registry.lookup_eq]
    exact Ledger.handle?_mono hp hk
  case endpoints =>
    intro i e he
    rw [hm.endpoints_eq, List.getElem?_map, Option.map_eq_some_iff] at he
    obtain ⟨d, hd, rfl⟩ := he
    obtain ⟨d', hd', hprefix⟩ := h.exists_isPrefix hd
    refine ⟨d'.resolved L'.names, ?_, ?_⟩
    · rw [hm'.endpoints_eq, List.getElem?_map, hd', Option.map_some]
    · have hsame : d.resolved L'.names = d.resolved L.names :=
        EndpointDeclaration.resolved_mono (Ledger.names_mono hp) fun o ho msg hmsg =>
          hm.assigned msg (mem_messages.mpr ⟨d, List.mem_of_getElem? hd, o, ho, hmsg⟩)
      rw [← hsame]
      exact hprefix.resolved L'.names

end ServiceContract
