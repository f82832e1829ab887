import ServiceContract.Proofs.Contract.References
import ServiceContract.Proofs.Interface.Errors
import ServiceContract.Proofs.Interface.Naming

/-!
# Contracts of built models

The types of a built model refer to types of the model, and so do its operations. Each of them can
therefore be written into a contract, and rendering fails only where an operation is repeated.
-/

namespace ServiceContract

open TypeGraph

/-! ## References of built models -/

namespace Registry

variable {r : Registry} {L : Ledger} {pending : Pending}

/-- The types that a field refers to are registered. -/
def Admits (r : Registry) (field : Field) : Prop :=
  ∀ target, field.type = .named target → (r.get? target).isSome

/-- The fields of a registry that mirrors a ledger refer to its types. -/
theorem Mirrors.admits_of_mem (hm : r.Mirrors L pending) :
    ∀ t ∈ r.types, ∀ field ∈ t.fields, r.Admits field := by
  intro t ht field hf target htarget
  rw [hm.types_eq] at ht
  obtain ⟨e, he, rfl⟩ := List.mem_map.mp ht
  obtain ⟨o, ho, rfl⟩ := List.mem_map.mp hf
  obtain ⟨name, type, isList, isNullable⟩ := o
  cases type with
  | primitive p => cases htarget
  | named n =>
      cases htarget
      have hn : n ∈ L.names := hm.within e he _ ho n rfl
      obtain ⟨e', he'⟩ := Ledger.exists_record? hn
      rw [hm.get?_eq (Ledger.handle?_of_mem hn), he']
      rfl

end Registry

/-- An operation of a built model returns a registered type. -/
theorem response_eq {ts : List TypeDeclaration} {es : List EndpointDeclaration} {m : Model}
    (h : Model.build ts es = .ok m) {e : Endpoint} (he : e ∈ m.endpoints) {o : Operation}
    (ho : o ∈ e.operations) : ∃ t, m.registry.get? o.response = some t := by
  obtain ⟨L, -, hm⟩ := Model.build_eq_ok h
  rw [hm.endpoints_eq] at he
  obtain ⟨e', he', rfl⟩ := List.mem_map.mp he
  obtain ⟨o', ho', rfl⟩ := List.mem_map.mp ho
  have hmem : o'.responseMessage ∈ messages es :=
    mem_messages.mpr ⟨e', he', o', ho', List.mem_cons_of_mem _ List.mem_cons_self⟩
  obtain ⟨t, ht, -⟩ := Registry.nameOf_eq_ok.mp (hm.nameOf_handle hmem)
  exact ⟨t, ht⟩

namespace Contract

variable {r : Registry}

/-! ## Types -/

theorem exists_fieldSchema {field : Field} (h : r.Admits field) :
    ∃ v, fieldSchema r field = .ok v := by
  unfold fieldSchema
  cases ht : field.type with
  | primitive p => exact ⟨_, rfl⟩
  | named target =>
      obtain ⟨t, hget⟩ := Option.isSome_iff_exists.mp (h target ht)
      have hname : r.nameOf target = .ok t.name := Registry.nameOf_eq_ok.mpr ⟨t, hget, rfl⟩
      simp only [hname]
      exact ⟨_, rfl⟩

theorem exists_properties {fields : List Field} (h : ∀ field ∈ fields, r.Admits field) :
    ∃ members, properties r fields = .ok members := by
  induction fields with
  | nil => exact ⟨[], rfl⟩
  | cons field rest ih =>
      obtain ⟨hfield, hrest⟩ := List.forall_mem_cons.mp h
      obtain ⟨v, hv⟩ := exists_fieldSchema hfield
      obtain ⟨members, hmembers⟩ := ih hrest
      exact ⟨_, bind_eq_ok.mpr ⟨v, hv, bind_eq_ok.mpr ⟨members, hmembers, rfl⟩⟩⟩

theorem exists_typeSchema {t : DataType} (h : ∀ field ∈ t.fields, r.Admits field) :
    ∃ v, typeSchema r t = .ok v := by
  obtain ⟨members, hmembers⟩ := exists_properties h
  exact ⟨_, bind_eq_ok.mpr ⟨members, hmembers, rfl⟩⟩

theorem exists_schemas {types : List DataType}
    (h : ∀ t ∈ types, ∀ field ∈ t.fields, r.Admits field) :
    ∃ members, schemas r types = .ok members := by
  induction types with
  | nil => exact ⟨[], rfl⟩
  | cons t rest ih =>
      obtain ⟨ht, hrest⟩ := List.forall_mem_cons.mp h
      obtain ⟨v, hv⟩ := exists_typeSchema ht
      obtain ⟨members, hmembers⟩ := ih hrest
      exact ⟨_, bind_eq_ok.mpr ⟨v, hv, bind_eq_ok.mpr ⟨members, hmembers, rfl⟩⟩⟩

variable {ts : List TypeDeclaration} {es : List EndpointDeclaration} {m : Model}

/-! ## Operations -/

/-- Every operation of a built model can be written. -/
theorem exists_operation (h : Model.build ts es = .ok m) :
    ∀ p ∈ operations m.endpoints, ∃ v, operation m.registry p.1 p.2 = .ok v := by
  rintro ⟨e, o⟩ hp
  obtain ⟨he, ho⟩ := mem_operations.mp hp
  obtain ⟨input, t, hinput, ht⟩ := parameter_eq h he ho
  obtain ⟨t', ht'⟩ := response_eq h he ho
  have hname : m.registry.nameOf o.response = .ok t'.name :=
    Registry.nameOf_eq_ok.mpr ⟨t', ht', rfl⟩
  obtain ⟨body, hbody⟩ : ∃ body, requestBody m.registry o.method o.parameters = .ok body := by
    rw [hinput]
    exact ⟨_, requestBody_singleton ht⟩
  exact ⟨_, bind_eq_ok.mpr ⟨body, hbody, bind_eq_ok.mpr ⟨t'.name, hname, rfl⟩⟩⟩

/-- What goes wrong with an operation that can be written is that it is repeated. -/
theorem addOperation_eq_error {done : Paths} {e : Endpoint} {o : Operation}
    {err : GenerationError} (ho : ∃ v, operation r e o = .ok v)
    (h : addOperation r done e o = .error err) :
    err = .duplicateOperation o.method (path e o) := by
  obtain ⟨v, hv⟩ := ho
  unfold addOperation at h
  dsimp only at h
  split at h
  · cases h
    rfl
  · rw [hv] at h
    cases h

/-! ## Whole contracts -/

/-- A contract of a built model is rendered just if its paths are. -/
theorem render_eq_of_build (h : Model.build ts es = .ok m) (heading : Heading) :
    ∃ members, schemas m.registry m.registry.types = .ok members ∧
      render heading m = paths m >>= fun ps =>
        .ok (.map [("openapi", .text "3.0.1"), ("info", info heading),
          ("tags", .list (m.endpoints.map tag)), ("paths", ps.toValue),
          ("components", .map [("schemas", .map (Entries.ofList members))])]) := by
  obtain ⟨L, -, hm⟩ := Model.build_eq_ok h
  obtain ⟨members, hmembers⟩ := exists_schemas hm.registry.admits_of_mem
  refine ⟨members, hmembers, ?_⟩
  unfold render
  rw [hmembers]
  rfl

/-- A built model is not rendered only because an operation is repeated. -/
theorem render_eq_error (hbuild : Model.build ts es = .ok m) {heading : Heading}
    {err : GenerationError} (h : render heading m = .error err) :
    ∃ method path, err = .duplicateOperation method path := by
  obtain ⟨members, -, hrender⟩ := render_eq_of_build hbuild heading
  rw [hrender] at h
  rcases bind_eq_error.mp h with hpaths | ⟨_, -, h⟩
  · obtain ⟨before, p, after, done, heq, -, hadd⟩ := foldlM_eq_error.mp hpaths
    have hp : p ∈ operations m.endpoints := heq ▸ List.mem_append_right before List.mem_cons_self
    exact ⟨_, _, addOperation_eq_error (exists_operation hbuild p hp) hadd⟩
  · cases h

/-- Whatever error building gives is true of the declarations, and none is about a handle. A model
that is built can be rendered unless an operation is repeated. -/
theorem errors_areTrue (ts : List TypeDeclaration) (es : List EndpointDeclaration)
    (heading : Heading) :
    (∀ err, Model.build ts es = .error err → err.IsTrue ts es) ∧
      ∀ m, Model.build ts es = .ok m → ∀ err, render heading m = .error err →
        ∃ method path, err = .duplicateOperation method path :=
  ⟨fun _ h => Model.isTrue_of_build h, fun _ hbuild _ h => render_eq_error hbuild h⟩

/-- A type has the name that an inline request gets. -/
def collidingTypes : List TypeDeclaration :=
  [⟨"findRequestDataType", .atoms ⟨none, [⟨some "id", .int, none⟩], none⟩⟩]

def collidingEndpoints : List EndpointDeclaration :=
  [⟨"orders", none, [⟨"find", none, none,
    some (.atoms ⟨none, [⟨some "text", .string, none⟩], none⟩), none⟩]⟩]

theorem errors_areTrue_colliding :
    Model.build collidingTypes collidingEndpoints =
        .error (.duplicateType "findRequestDataType") ∧
      (ModelError.duplicateType "findRequestDataType").IsTrue collidingTypes
        collidingEndpoints := by
  have h : Model.build collidingTypes collidingEndpoints =
      .error (.duplicateType "findRequestDataType") := by
    decide +kernel
  exact ⟨h, (errors_areTrue collidingTypes collidingEndpoints ⟨"Shop", none, "1.0"⟩).1 _ h⟩

end Contract

end ServiceContract
