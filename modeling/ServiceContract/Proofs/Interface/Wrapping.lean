import ServiceContract.Proofs.Interface.Expansion

/-!
# Wrappers

A payload that occurs other than exactly once has a wrapper, which is found by its name alone. A
structure of that name, whatever its fields, therefore takes the place of the wrapper.
-/

namespace ServiceContract

open TypeGraph

/-! ## Wrapped payloads -/

/-- The only field of the type that wraps a base type. -/
def wrapperField (base : Handle) : Cardinality → Option Field
  | .scalar => none
  | .list => some ⟨"entries", .named base, true, false⟩
  | .optional => some ⟨"value", .named base, false, true⟩

/-- The type of a handle wraps the payload of a message, if its cardinality asks for that. -/
def Message.Wrapped (r : Registry) (m : Message) (h : Handle) : Prop :=
  ∀ p, m.payload = some p → ∃ base, r.lookup (p.baseName m.inlineName) = some base ∧
    ∀ field, wrapperField base (.ofPayload (some p)) = some field →
      (r.get? h).map (·.fields) = some [field]

/-- The types of an operation, those of its messages in order. -/
def Operation.types (o : Operation) : List Handle := o.parameters.map (·.type) ++ [o.response]

/-- Every payload of every operation is wrapped where its cardinality asks for that. -/
def Model.WrapsPayloads (m : Model) (es : List EndpointDeclaration) : Prop :=
  List.Forall₂ (fun declared endpoint =>
    List.Forall₂ (fun (declared : OperationDeclaration) operation =>
      List.Forall₂ (·.Wrapped m.registry) declared.messages operation.types)
      declared.operations endpoint.operations) es m.endpoints

/-- The wrapper of a message, if it has one. -/
def Message.wrappers (m : Message) : List Registration :=
  match m.payload with
  | some p => wrapperEntries (p.baseName m.inlineName) (.ofPayload (some p))
  | none => []

/-- A structure that has the name of a wrapper has the field of the wrapper as its only one. -/
def WrappersAreFree (ts : List TypeDeclaration) (es : List EndpointDeclaration) : Prop :=
  ∀ m ∈ messages es, ∀ w ∈ m.wrappers, ∀ e ∈ expansion ts es, e.origin.IsStructure →
    e.name = w.name → e.outlines = w.outlines

/-! ## Names of wrappers -/

/-- A cardinality that makes a wrapper gives it a name of its own and one field. -/
theorem wrapperEntries_cases (base : String) (c : Cardinality) :
    (wrapperEntries base c = [] ∧ ∀ h, wrapperField h c = none) ∨
      ∃ w o, wrapperEntries base c = [w] ∧ w.name = wrappedName base c ∧ w.outlines = [o] ∧
        o.type = .named base ∧
          ∀ names, wrapperField ⟨names.idxOf base⟩ c = some (o.field names) := by
  cases c with
  | scalar => exact .inl ⟨rfl, fun _ => rfl⟩
  | list => exact .inr ⟨_, _, rfl, rfl, rfl, rfl, fun _ => rfl⟩
  | optional => exact .inr ⟨_, _, rfl, rfl, rfl, rfl, fun _ => rfl⟩

theorem name_of_mem_wrapperEntries {base : String} {c : Cardinality} {w : Registration}
    (hw : w ∈ wrapperEntries base c) : c ≠ .scalar ∧ w.name = wrappedName base c := by
  cases c with
  | scalar => cases hw
  | list =>
      rw [List.mem_singleton.mp hw]
      exact ⟨by simp, rfl⟩
  | optional =>
      rw [List.mem_singleton.mp hw]
      exact ⟨by simp, rfl⟩

theorem wrapperEntries_eq_of_name {base base' : String} {c c' : Cardinality} {w w' : Registration}
    (hw : w ∈ wrapperEntries base c) (hw' : w' ∈ wrapperEntries base' c')
    (hname : w.name = w'.name) : w = w' := by
  obtain ⟨hc, heq⟩ := name_of_mem_wrapperEntries hw
  obtain ⟨hc', heq'⟩ := name_of_mem_wrapperEntries hw'
  obtain ⟨rfl, rfl⟩ := wrappedName_injective hc hc' (heq.symm.trans (hname.trans heq'))
  rcases wrapperEntries_cases base c with ⟨hnone, -⟩ | ⟨w₀, _, hone, -⟩
  · rw [hnone] at hw
    cases hw
  · rw [hone, List.mem_singleton] at hw hw'
    rw [hw, hw']

theorem Message.mem_wrappers {m : Message} {w : Registration} :
    w ∈ m.wrappers ↔ ∃ p, m.payload = some p ∧
      w ∈ wrapperEntries (p.baseName m.inlineName) (.ofPayload (some p)) := by
  unfold wrappers
  cases m.payload with
  | none => simp
  | some p => simp

theorem Message.typeName_eq {m : Message} {w : Registration} (hw : w ∈ m.wrappers) :
    m.typeName = w.name := by
  obtain ⟨p, hp, hw⟩ := mem_wrappers.mp hw
  rw [typeName, hp]
  rcases wrapperEntries_cases (p.baseName m.inlineName) (.ofPayload (some p)) with
    ⟨hnone, -⟩ | ⟨w', _, hw', hname, -⟩
  · rw [hnone] at hw
    cases hw
  · rw [hw', List.mem_singleton] at hw
    rw [hw, hname]

/-- A substitute ends as no wrapper does. -/
theorem getLast?_substituteName {es : List EndpointDeclaration} {m : Message}
    (hm : m ∈ messages es) : m.substituteName.toList.getLast? = some 'e' := by
  obtain ⟨_, _, o, _, hm⟩ := mem_messages.mp hm
  simp only [OperationDeclaration.messages, List.mem_cons, List.not_mem_nil, or_false] at hm
  rcases hm with rfl | rfl
  · exact getLast?_append (Text.capitalize o.name) (by decide)
  · show voidResponseName.toList.getLast? = some 'e'
    decide

/-! ## Entries that are no structures -/

mutual

theorem TreeNode.nested_isStructure (owner : String) (position : Nat) (node : TreeNode) :
    ∀ e ∈ node.nested owner position, e.origin.IsStructure := by
  intro e he
  cases node with
  | single p => cases he
  | tree name nodes card =>
      rcases List.mem_cons.mp he with rfl | he
      · exact trivial
      · exact nestedTypes_isStructure _ 0 nodes e he
  | list l =>
      rw [List.mem_singleton.mp he]
      exact trivial
termination_by structural node

theorem nestedTypes_isStructure (owner : String) (position : Nat) (nodes : List TreeNode) :
    ∀ e ∈ nestedTypes owner position nodes, e.origin.IsStructure := by
  intro e he
  cases nodes with
  | nil => cases he
  | cons node rest =>
      rcases List.mem_append.mp he with he | he
      · exact TreeNode.nested_isStructure owner (position + 1) node e he
      · exact nestedTypes_isStructure owner (position + 1) rest e he
termination_by structural nodes

end

theorem Payload.nested_isStructure (owner : String) (p : Payload) :
    ∀ e ∈ p.nested owner, e.origin.IsStructure := by
  intro e he
  cases p with
  | tree t => exact nestedTypes_isStructure owner 0 t.nodes e he
  | atoms l => cases he
  | single q => cases he

/-- What a message expands to besides structures is its wrapper or its substitute. -/
theorem Message.mem_expansion {m : Message} {e : Registration} (he : e ∈ m.expansion) :
    e.origin.IsStructure ∨ e ∈ m.wrappers ∨ e = ⟨m.substituteName, .substitute⟩ := by
  unfold Message.expansion at he
  unfold Message.wrappers
  cases hp : m.payload with
  | none =>
      rw [hp] at he
      exact .inr (.inr (List.mem_singleton.mp he))
  | some p =>
      rw [hp] at he
      rcases List.mem_append.mp he with he | he
      · refine .inl ?_
        unfold Payload.expansion at he
        cases hr : p.reference? with
        | some r =>
            rw [hr] at he
            cases he
        | none =>
            rw [hr] at he
            rcases List.mem_cons.mp he with rfl | he
            · exact trivial
            · exact p.nested_isStructure m.inlineName e he
      · exact .inr (.inl he)

/-- An entry that is no structure is the wrapper or the substitute of some message. -/
theorem mem_expansion_cases {ts : List TypeDeclaration} {es : List EndpointDeclaration}
    {e : Registration} (he : e ∈ expansion ts es) :
    e.origin.IsStructure ∨ ∃ m ∈ messages es,
      e ∈ m.wrappers ∨ e = ⟨m.substituteName, .substitute⟩ := by
  simp only [expansion, synthesized, List.mem_append, List.mem_map, List.mem_flatMap] at he
  rcases he with ⟨d, _, rfl⟩ | ⟨d, _, he⟩ | ⟨m, hm, he⟩
  · exact .inl trivial
  · exact .inl (d.content.nested_isStructure d.name e he)
  · exact (m.mem_expansion he).imp_right fun he => ⟨m, hm, he⟩

/-- No wrapper has the name of a substitute. -/
theorem wrapper_name_ne_substituteName {es : List EndpointDeclaration} {m m' : Message}
    {w : Registration} (hw : w ∈ m.wrappers) (hm' : m' ∈ messages es) :
    w.name ≠ m'.substituteName := by
  obtain ⟨p, -, hw⟩ := Message.mem_wrappers.mp hw
  obtain ⟨hc, heq⟩ := name_of_mem_wrapperEntries hw
  intro hname
  have hlast := getLast?_wrappedName (p.baseName m.inlineName) hc
  rw [← heq, hname, getLast?_substituteName hm'] at hlast
  split at hlast <;> simp at hlast

/-- An entry that has the name of a wrapper is a structure or that wrapper. -/
theorem eq_of_name_eq {ts : List TypeDeclaration} {es : List EndpointDeclaration} {m : Message}
    {w e : Registration} (hw : w ∈ m.wrappers) (he : e ∈ expansion ts es)
    (hname : e.name = w.name) : e.origin.IsStructure ∨ e = w := by
  rcases mem_expansion_cases he with hs | ⟨m', hm', he | rfl⟩
  · exact .inl hs
  · obtain ⟨p, -, hw⟩ := Message.mem_wrappers.mp hw
    obtain ⟨p', -, he⟩ := Message.mem_wrappers.mp he
    exact .inr (wrapperEntries_eq_of_name he hw hname)
  · exact (wrapper_name_ne_substituteName hw hm' hname.symm).elim

/-! ## When payloads are wrapped -/

variable {ts : List TypeDeclaration} {es : List EndpointDeclaration} {m : Model} {L : Ledger}

/-- The name of a payload is registered when the plan has been followed. -/
theorem baseName_mem_names (hL : Ledger.run [] (plan ts es) = .ok L) {msg : Message}
    (hmsg : msg ∈ messages es) {p : Payload} (hp : msg.payload = some p) :
    p.baseName msg.inlineName ∈ L.names := by
  rw [Registers.plan ts es [] [] L rfl hL, List.nil_append, List.mem_eraseDups]
  refine List.mem_append_right _ (List.mem_flatMap.mpr ⟨msg, hmsg, ?_⟩)
  unfold Message.typeNames
  rw [hp]
  exact List.mem_cons_self

/-- A message is wrapped exactly when the entry that its wrapper finds has the wrapper's field. -/
theorem wrapped_iff_entry (hL : Ledger.run [] (plan ts es) = .ok L) (hm : m.Mirrors L es)
    {msg : Message} (hmsg : msg ∈ messages es) :
    msg.Wrapped m.registry (msg.handle L.names) ↔
      ∀ w ∈ msg.wrappers, ∀ e, L.record? w.name = some e → e.outlines = w.outlines := by
  unfold Message.Wrapped Message.wrappers
  cases hp : msg.payload with
  | none => simp
  | some p =>
      have hbase := baseName_mem_names hL hmsg hp
      have hlookup : m.registry.lookup (p.baseName msg.inlineName) =
          some ⟨L.names.idxOf (p.baseName msg.inlineName)⟩ := by
        rw [hm.registry.lookup_eq]
        exact Ledger.handle?_of_mem hbase
      rcases wrapperEntries_cases (p.baseName msg.inlineName) (.ofPayload (some p)) with
        ⟨hnone, hfield⟩ | ⟨w, o, hw, -, ho, htype, hfield⟩
      · simp [hnone, hfield, hlookup]
      · have hassigned : msg.typeName = w.name :=
          Message.typeName_eq (Message.mem_wrappers.mpr ⟨p, hp, by simp [hw]⟩)
        have hmem : w.name ∈ L.names := hassigned ▸ hm.assigned msg hmsg
        obtain ⟨e, he⟩ := Ledger.exists_record? hmem
        have hget := hm.registry.get?_eq (Ledger.handle?_of_mem hmem)
        rw [he] at hget
        have hwithin : o.Within L.names := by
          intro n hn
          rw [htype] at hn
          cases hn
          exact hbase
        have hfields : (m.registry.get? (msg.handle L.names)).map (·.fields) =
            some (e.outlines.map (·.field L.names)) := by
          rw [Message.handle, hassigned, hget]
          rfl
        simp only [Option.some.injEq, forall_eq', hlookup, exists_eq_left', hfield, hw,
          List.mem_singleton, forall_eq, hfields, he, ho]
        constructor
        · intro h
          obtain ⟨o', ho', heq⟩ := List.map_eq_singleton_iff.mp h
          have hmem' : o' ∈ e.filled .nothing := by
            simp [Registration.filled, Pending.nothing, ho']
          have hwithin' := hm.registry.within e (Ledger.record?_mem he) o' hmem'
          rw [ho', Outline.field_injective hwithin' hwithin heq]
        · intro h
          rw [h]
          rfl

/-- What a name stands for has the fields of an entry exactly when every structure of the name does,
if nothing else of the name has other fields. -/
theorem entry_outlines_iff (hL : Ledger.run [] (plan ts es) = .ok L) {w : Registration}
    (hothers : ∀ e ∈ expansion ts es, e.name = w.name →
      e.origin.IsStructure ∨ e.outlines = w.outlines) :
    (∀ e, L.record? w.name = some e → e.outlines = w.outlines) ↔
      ∀ e ∈ expansion ts es, e.origin.IsStructure → e.name = w.name →
        e.outlines = w.outlines := by
  constructor
  · intro h e he hs hname
    have hentry := Ledger.record?_of_structure hL (register_mem_plan.mpr he) hs
    exact h e (hname ▸ hentry)
  · intro h e he
    have hname := Ledger.record?_name he
    have hexpansion := mem_expansion_of_record? hL he
    rcases hothers e hexpansion hname with hs | hsame
    · exact h e hexpansion hs hname
    · exact hsame

/-- The payloads of a model are wrapped when the messages are that declare them. -/
theorem Model.Mirrors.wrapsPayloads_iff_wrapped (hm : m.Mirrors L es) :
    m.WrapsPayloads es ↔
      ∀ msg ∈ messages es, msg.Wrapped m.registry (msg.handle L.names) := by
  have htypes : ∀ o : OperationDeclaration,
      (o.resolved L.names).types = o.messages.map (·.handle L.names) := fun o => rfl
  simp only [Model.WrapsPayloads, hm.endpoints_eq, List.forall₂_map_right_iff, List.forall₂_same,
    EndpointDeclaration.resolved, htypes, messages, List.mem_flatMap]
  constructor
  · rintro h msg ⟨e, he, o, ho, hmsg⟩
    exact h e he o ho msg hmsg
  · intro h e he o ho msg hmsg
    exact h msg ⟨e, he, o, ho, hmsg⟩

/-- Payloads are wrapped exactly when no structure of another shape has the name of a wrapper. -/
theorem Model.wrapsPayloads_iff (h : Model.build ts es = .ok m) :
    m.WrapsPayloads es ↔ WrappersAreFree ts es := by
  obtain ⟨L, hL, hm⟩ := Model.build_eq_ok h
  rw [hm.wrapsPayloads_iff_wrapped]
  refine forall₂_congr fun msg hmsg => ?_
  rw [wrapped_iff_entry hL hm hmsg]
  exact forall₂_congr fun w hw => entry_outlines_iff hL fun e he hname =>
    (eq_of_name_eq hw he hname).imp_right (congrArg _)

/-- Orders, and a declared page of them that has the name of their wrapper. -/
def pagedTypes : List TypeDeclaration :=
  [⟨"Order", .atoms ⟨none, [⟨some "id", .int, none⟩], none⟩⟩,
    ⟨"OrderList", .atoms ⟨none, [⟨some "page", .int, none⟩], none⟩⟩]

theorem Model.wrapsPayloads_iff_orders :
    Model.build orderTypes orderEndpoints = .ok orderModel ∧
      (orderModel.WrapsPayloads orderEndpoints ↔ WrappersAreFree orderTypes orderEndpoints) := by
  have h : Model.build orderTypes orderEndpoints = .ok orderModel := by decide +kernel
  exact ⟨h, Model.wrapsPayloads_iff h⟩

/-- The page is taken for the wrapper: no error is raised, and there are no orders in it. -/
theorem Model.not_wrapsPayloads_paged :
    ∃ m, Model.build pagedTypes orderEndpoints = .ok m ∧ ¬ m.WrapsPayloads orderEndpoints := by
  have h : Model.build pagedTypes orderEndpoints = .ok
      { registry :=
          { types := [⟨"Order", [⟨"id", .primitive .int, false, false⟩]⟩,
              ⟨"OrderList", [⟨"page", .primitive .int, false, false⟩]⟩, ⟨"AllRequestMessage", []⟩]
            index := [("AllRequestMessage", ⟨2⟩), ("OrderList", ⟨1⟩), ("Order", ⟨0⟩)] }
        endpoints := [⟨"orders", none, [⟨"all", none, .post, [⟨"input", ⟨2⟩⟩], ⟨1⟩⟩]⟩] } := by
    decide +kernel
  refine ⟨_, h, ?_⟩
  intro hwraps
  obtain _ | ⟨hoperations, -⟩ := hwraps
  obtain _ | ⟨hmessages, -⟩ := hoperations
  obtain _ | ⟨-, _ | ⟨hresponse, -⟩⟩ := hmessages
  obtain ⟨base, -, hfield⟩ := hresponse _ rfl
  have hpage := hfield _ rfl
  simp [Registry.get?] at hpage

end ServiceContract
