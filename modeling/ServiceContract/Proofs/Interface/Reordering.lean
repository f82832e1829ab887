import Mathlib.Data.Set.Function
import ServiceContract.Proofs.Interface.References
import ServiceContract.Proofs.Interface.Wrapping
import ServiceContract.Proofs.TypeGraph.Reordering

/-!
# Declarations in another order

The order of declarations does not matter where every reference is to a declared type: the model can
be built in one order just if it can be in any other, and it is the same but for the handles.
-/

namespace ServiceContract

open TypeGraph

/-! ## Other handles -/

variable (f : Handle → Handle)

def FieldType.rename : FieldType → FieldType
  | .primitive p => .primitive p
  | .named h => .named (f h)

def Field.rename (field : Field) : Field := { field with type := field.type.rename f }

def DataType.rename (t : DataType) : DataType := { t with fields := t.fields.map (·.rename f) }

def OperationParameter.rename (p : OperationParameter) : OperationParameter :=
  { p with type := f p.type }

def Operation.rename (o : Operation) : Operation :=
  { o with parameters := o.parameters.map (·.rename f), response := f o.response }

def Endpoint.rename (e : Endpoint) : Endpoint :=
  { e with operations := e.operations.map (·.rename f) }

variable {f}

/-- The handles that a registry gave out. -/
def Registry.handles (r : Registry) : Set Handle := {h | (r.get? h).isSome}

/-- One model is the other, with every handle replaced by the one that `f` pairs it with. -/
structure Model.IsRenaming (m m' : Model) (f : Handle → Handle) : Prop where
  bijOn : Set.BijOn f m.registry.handles m'.registry.handles
  types_eq : ∀ h t, m.registry.get? h = some t → m'.registry.get? (f h) = some (t.rename f)
  endpoints_eq : m'.endpoints = m.endpoints.map (·.rename f)

/-! ## Handles of the same names -/

/-- Pairs the handles of the same name in two orders of names. -/
def pairing (names names' : List String) (h : Handle) : Handle :=
  match names[h.index]? with
  | some n => ⟨names'.idxOf n⟩
  | none => h

variable {names names' : List String}

theorem pairing_idxOf {n : String} (hn : n ∈ names) :
    pairing names names' ⟨names.idxOf n⟩ = ⟨names'.idxOf n⟩ := by
  unfold pairing
  rw [List.getElem?_idxOf hn]

theorem Outline.rename_field {o : Outline} (ho : o.Within names) :
    (o.field names).rename (pairing names names') = o.field names' := by
  obtain ⟨name, type, isList, isNullable⟩ := o
  cases type with
  | primitive p => rfl
  | named n => simp [Field.rename, FieldType.rename, field, pairing_idxOf (ho n rfl)]

theorem Message.rename_handle {m : Message} (hm : m.typeName ∈ names) :
    pairing names names' (m.handle names) = m.handle names' :=
  pairing_idxOf hm

theorem OperationDeclaration.rename_resolved {o : OperationDeclaration}
    (ho : ∀ m ∈ o.messages, m.typeName ∈ names) :
    (o.resolved names).rename (pairing names names') = o.resolved names' := by
  have hrequest : o.requestMessage.typeName ∈ names := ho _ (by simp [messages])
  have hresponse : o.responseMessage.typeName ∈ names := ho _ (by simp [messages])
  simp [resolved, Operation.rename, OperationParameter.rename, Message.rename_handle hrequest,
    Message.rename_handle hresponse]

theorem EndpointDeclaration.rename_resolved {e : EndpointDeclaration}
    (he : ∀ o ∈ e.operations, ∀ m ∈ o.messages, m.typeName ∈ names) :
    (e.resolved names).rename (pairing names names') = e.resolved names' := by
  have hoperations : (e.operations.map (·.resolved names)).map
      (·.rename (pairing names names')) = e.operations.map (·.resolved names') := by
    rw [List.map_map]
    exact List.map_congr_left fun o ho => OperationDeclaration.rename_resolved (he o ho)
  simp only [resolved, Endpoint.rename, hoperations]

/-- The handles of a registry are those of the names in its ledger. -/
theorem Registry.Mirrors.mem_handles {r : Registry} {L : Ledger} {pending : Pending}
    (hm : r.Mirrors L pending) {h : Handle} :
    h ∈ r.handles ↔ ∃ n ∈ L.names, h = ⟨L.names.idxOf n⟩ := by
  have hsome : h ∈ r.handles ↔ h.index < L.names.length := by
    simp [handles, get?, hm.types_eq, Ledger.names]
  rw [hsome]
  constructor
  · intro hlt
    refine ⟨L.names[h.index], List.getElem_mem hlt, ?_⟩
    rw [hm.distinct.idxOf_getElem]
  · rintro ⟨n, hn, rfl⟩
    exact List.idxOf_lt_length_of_mem hn

variable {m m' : Model} {L L' : Ledger} {es : List EndpointDeclaration}

/-- Models of the same entries in two orders differ in their handles only. -/
theorem Model.Mirrors.isRenaming (hm : m.Mirrors L es) (hm' : m'.Mirrors L' es)
    (hp : L.Perm L') : m.IsRenaming m' (pairing L.names L'.names) := by
  have hnames : ∀ n, n ∈ L.names ↔ n ∈ L'.names := fun n => (Ledger.names_perm hp).mem_iff
  refine ⟨⟨?_, ?_, ?_⟩, ?_, ?_⟩
  · intro h hh
    obtain ⟨n, hn, rfl⟩ := hm.registry.mem_handles.mp hh
    rw [pairing_idxOf hn]
    exact hm'.registry.mem_handles.mpr ⟨n, (hnames n).mp hn, rfl⟩
  · intro h hh k hk heq
    obtain ⟨n, hn, rfl⟩ := hm.registry.mem_handles.mp hh
    obtain ⟨n', hn', rfl⟩ := hm.registry.mem_handles.mp hk
    rw [pairing_idxOf hn, pairing_idxOf hn', Handle.mk.injEq,
      List.idxOf_inj ((hnames n).mp hn)] at heq
    rw [heq]
  · intro h hh
    obtain ⟨n, hn, rfl⟩ := hm'.registry.mem_handles.mp hh
    have hmem : n ∈ L.names := (hnames n).mpr hn
    exact ⟨⟨L.names.idxOf n⟩, hm.registry.mem_handles.mpr ⟨n, hmem, rfl⟩, pairing_idxOf hmem⟩
  · intro h t ht
    obtain ⟨n, hn, rfl⟩ := hm.registry.mem_handles.mp (Option.isSome_of_eq_some ht)
    obtain ⟨e, he⟩ := Ledger.exists_record? hn
    have he' : L'.record? n = some e :=
      (Ledger.record?_eq_of_perm hp hm.registry.distinct n).trans he
    have hget := hm.registry.get?_eq (Ledger.handle?_of_mem hn)
    rw [ht, he] at hget
    obtain rfl := Option.some.inj hget
    rw [pairing_idxOf hn, hm'.registry.get?_eq (Ledger.handle?_of_mem ((hnames n).mp hn)), he']
    simp only [Option.map_some, Registration.dataType, DataType.rename, List.map_map,
      Option.some.injEq, DataType.mk.injEq, true_and]
    apply List.map_congr_left
    intro o ho
    exact (Outline.rename_field (hm.registry.within e (Ledger.record?_mem he) o ho)).symm
  · rw [hm'.endpoints_eq, hm.endpoints_eq, List.map_map]
    apply List.map_congr_left
    intro e he
    exact (EndpointDeclaration.rename_resolved fun o ho msg hmsg =>
      hm.assigned msg (mem_messages.mpr ⟨e, he, o, ho, hmsg⟩)).symm

/-! ## Plans in another order -/

variable {ts ts' : List TypeDeclaration}

/-- What declarations ask for before their structures do may be met in any order. -/
theorem declared_isFree : ∀ event ∈ ts.map (fun d => Event.register d.entry), event.IsFree L := by
  intro event hevent
  obtain ⟨d, _, rfl⟩ := List.mem_map.mp hevent
  exact trivial

/-- So may what the structures ask for, once the names that they refer to are there. -/
theorem content_isFree (hrefs : ∀ t ∈ ts.flatMap (·.content.references), t ∈ L.names) :
    ∀ event ∈ ts.flatMap (fun d => d.content.events d.name), event.IsFree L := by
  intro event hevent
  obtain ⟨d, hd, hevent⟩ := List.mem_flatMap.mp hevent
  cases event with
  | refer target =>
      refine hrefs target (List.mem_flatMap.mpr ⟨d, hd, ?_⟩)
      rw [← d.content.events_targets d.name]
      exact List.mem_filterMap.mpr ⟨_, hevent, rfl⟩
  | register e =>
      refine d.content.nested_isStructure d.name e ?_
      rw [← Payload.events_entries]
      exact List.mem_filterMap.mpr ⟨_, hevent, rfl⟩

theorem ReferencesDeclared.perm (hp : ts.Perm ts') (h : ReferencesDeclared ts es) :
    ReferencesDeclared ts' es := by
  intro t ht
  refine (hp.map _).mem_iff.mp (h t ?_)
  simp only [references, List.mem_append, List.mem_flatMap] at ht ⊢
  simpa only [hp.mem_iff] using ht

/-- A ledger can follow the plan in one order just if one with the same entries can in another. -/
theorem run_plan_perm (hp : ts.Perm ts') (hrefs : ReferencesDeclared ts es)
    (h : Ledger.run [] (plan ts es) = .ok L) :
    ∃ L', Ledger.run [] (plan ts' es) = .ok L' ∧ L.Perm L' := by
  obtain ⟨L₂, hdeclared, hendpoints⟩ := Ledger.run_append_eq_ok.mp h
  obtain ⟨L₁, hnames, hcontents⟩ := Ledger.run_append_eq_ok.mp hdeclared
  have hd : (Ledger.names []).Nodup := List.nodup_nil
  obtain ⟨L₁', hnames', hp₁⟩ :=
    Ledger.run_reorder (hp.map _) declared_isFree (.refl []) hd hnames
  have hd₁ := Ledger.run_nodup hd hnames
  have hentries : L₁.names = ts.map (·.name) := by
    rw [Ledger.run_declared hnames, List.nil_append, Ledger.names, List.map_map]
    rfl
  have hfree : ∀ event ∈ ts.flatMap (fun d => d.content.events d.name), event.IsFree L₁ := by
    refine content_isFree fun t ht => ?_
    rw [hentries]
    exact hrefs t (List.mem_append_left _ ht)
  obtain ⟨L₂', hcontents', hp₂⟩ :=
    Ledger.run_reorder (hp.flatMap_right _) hfree hp₁ hd₁ hcontents
  obtain ⟨L', hendpoints', hp'⟩ :=
    Ledger.run_perm hp₂ (Ledger.run_nodup hd₁ hcontents) hendpoints
  exact ⟨L', Ledger.run_append_eq_ok.mpr
    ⟨L₂', Ledger.run_append_eq_ok.mpr ⟨L₁', hnames', hcontents'⟩, hendpoints'⟩, hp'⟩

/-! ## Models in another order -/

/-- A plan that a ledger can follow gives a model. -/
theorem Model.exists_build (h : Ledger.run [] (plan ts es) = .ok L) :
    ∃ m, Model.build ts es = .ok m := by
  cases hm : Model.build ts es with
  | ok m => exact ⟨m, rfl⟩
  | error e =>
      rw [Model.build_eq_error, h] at hm
      cases hm

theorem Model.exists_build_perm (hp : ts.Perm ts') (hrefs : ReferencesDeclared ts es)
    (h : Model.build ts es = .ok m) : ∃ m', Model.build ts' es = .ok m' := by
  obtain ⟨L, hL, -⟩ := Model.build_eq_ok h
  obtain ⟨L', hL', -⟩ := run_plan_perm hp hrefs hL
  exact Model.exists_build hL'

/-- Where all references are to declared types, declarations in another order make a model just if
they make one in the given order, and it differs in its handles only. -/
theorem Model.build_perm (hp : ts.Perm ts') (hrefs : ReferencesDeclared ts es) :
    ((∃ m, Model.build ts es = .ok m) ↔ ∃ m', Model.build ts' es = .ok m') ∧
      ∀ m m', Model.build ts es = .ok m → Model.build ts' es = .ok m' →
        ∃ f, m.IsRenaming m' f := by
  refine ⟨⟨?_, ?_⟩, ?_⟩
  · rintro ⟨m, hm⟩
    exact exists_build_perm hp hrefs hm
  · rintro ⟨m', hm'⟩
    exact exists_build_perm hp.symm (hrefs.perm hp) hm'
  · intro m m' h h'
    obtain ⟨L, hL, hm⟩ := Model.build_eq_ok h
    obtain ⟨L', hL', hm'⟩ := Model.build_eq_ok h'
    obtain ⟨M, hM, hperm⟩ := run_plan_perm hp hrefs hL
    obtain rfl : L' = M := Except.ok.inj (hL'.symm.trans hM)
    exact ⟨_, hm.isRenaming hm' hperm⟩

/-- The model of the orders whose items are declared first. -/
def itemFirstModel : Model where
  registry :=
    { types := [
        ⟨"Item", [⟨"id", .primitive .int, false, false⟩]⟩,
        ⟨"Order", [⟨"items", .named ⟨0⟩, true, false⟩, ⟨"address", .named ⟨2⟩, false, false⟩]⟩,
        ⟨"OrderAddress", [⟨"anonymous1", .primitive .string, false, false⟩]⟩,
        ⟨"AllRequestMessage", []⟩,
        ⟨"OrderList", [⟨"entries", .named ⟨1⟩, true, false⟩]⟩]
      index := [("OrderList", ⟨4⟩), ("AllRequestMessage", ⟨3⟩), ("OrderAddress", ⟨2⟩),
        ("Order", ⟨1⟩), ("Item", ⟨0⟩)] }
  endpoints := [⟨"orders", none, [⟨"all", none, .post, [⟨"input", ⟨3⟩⟩], ⟨4⟩⟩]⟩]

theorem Model.build_perm_orders :
    Model.build orderTypes orderEndpoints = .ok orderModel ∧
      Model.build orderTypes.reverse orderEndpoints = .ok itemFirstModel ∧
        ∃ f, orderModel.IsRenaming itemFirstModel f := by
  have h : Model.build orderTypes orderEndpoints = .ok orderModel := by decide +kernel
  have h' : Model.build orderTypes.reverse orderEndpoints = .ok itemFirstModel := by
    decide +kernel
  have hrefs : ReferencesDeclared orderTypes orderEndpoints := by
    unfold ReferencesDeclared
    decide +kernel
  exact ⟨h, h', (Model.build_perm orderTypes.reverse_perm.symm hrefs).2 _ _ h h'⟩

end ServiceContract
