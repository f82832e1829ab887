import ServiceContract.Proofs.TypeGraph.Declarations

/-!
# The plan of an interface

What declarations and endpoints ask of the registry, in order, and the endpoints that come of it.
The interface is built exactly when a ledger can follow the plan, and it then has the types of that
ledger.
-/

namespace ServiceContract

open TypeGraph TypeGraph.Build

/-! ## Messages -/

/-- A request or a response: its payload, the name for the type of an inline payload, and the name
of the type that stands in where there is no payload. -/
structure Message where
  payload : Option Payload
  inlineName : String
  substituteName : String

def OperationDeclaration.requestMessage (o : OperationDeclaration) : Message :=
  ⟨o.request, requestTypeName o.name, requestMessageName o.name⟩

def OperationDeclaration.responseMessage (o : OperationDeclaration) : Message :=
  ⟨o.response, responseTypeName o.name, voidResponseName⟩

/-- The messages of an operation, the request first. -/
def OperationDeclaration.messages (o : OperationDeclaration) : List Message :=
  [o.requestMessage, o.responseMessage]

/-- The name of the type of a payload as it occurs once: the one it refers to, or the one given to
an inline payload. -/
def Payload.baseName (inlineName : String) (p : Payload) : String :=
  match p.reference? with
  | some r => r.target
  | none => inlineName

/-- What a payload asks for, before its cardinality does. -/
def Payload.baseEvents (inlineName : String) (p : Payload) : List Event :=
  match p.reference? with
  | some r => [.refer r.target]
  | none => .register ⟨inlineName, .shape (.whole p)⟩ :: p.events inlineName

def Message.events (m : Message) : List Event :=
  match m.payload with
  | some p =>
    p.baseEvents m.inlineName ++ wrapperEvents (p.baseName m.inlineName) (.ofPayload (some p))
  | none => [.register ⟨m.substituteName, .substitute⟩]

def Message.typeName (m : Message) : String :=
  match m.payload with
  | some p => wrappedName (p.baseName m.inlineName) (.ofPayload (some p))
  | none => m.substituteName

def Message.handle (names : List String) (m : Message) : Handle := ⟨names.idxOf m.typeName⟩

/-! ## Operations and endpoints -/

def OperationDeclaration.events (o : OperationDeclaration) : List Event :=
  o.messages.flatMap Message.events

def EndpointDeclaration.events (e : EndpointDeclaration) : List Event :=
  e.operations.flatMap OperationDeclaration.events

/-- The operation in a registry that has types of these names. -/
def OperationDeclaration.resolved (names : List String) (o : OperationDeclaration) : Operation :=
  ⟨o.name, o.description, o.method.getD .post, [⟨"input", o.requestMessage.handle names⟩],
    o.responseMessage.handle names⟩

def EndpointDeclaration.resolved (names : List String) (e : EndpointDeclaration) : Endpoint :=
  ⟨e.name, e.description, e.operations.map (·.resolved names)⟩

def messages (es : List EndpointDeclaration) : List Message :=
  es.flatMap fun e => e.operations.flatMap (·.messages)

theorem mem_messages {es : List EndpointDeclaration} {msg : Message} :
    msg ∈ messages es ↔ ∃ e ∈ es, ∃ o ∈ e.operations, msg ∈ o.messages := by
  simp only [messages, List.mem_flatMap]

/-- What declarations and endpoints ask for. -/
def plan (ts : List TypeDeclaration) (es : List EndpointDeclaration) : List Event :=
  declarationEvents ts ++ es.flatMap EndpointDeclaration.events

theorem flatMap_events_eq (es : List EndpointDeclaration) :
    es.flatMap EndpointDeclaration.events = (messages es).flatMap Message.events := by
  simp only [messages, List.flatMap_assoc]
  rfl

/-! ## Handles -/

theorem Message.handle_mono {names more : List String} (hp : names <+: more) {m : Message}
    (hm : m.typeName ∈ names) : m.handle more = m.handle names := by
  rw [handle, handle, hp.idxOf_eq_of_mem hm]

theorem OperationDeclaration.resolved_mono {names more : List String} (hp : names <+: more)
    {o : OperationDeclaration} (ho : ∀ m ∈ o.messages, m.typeName ∈ names) :
    o.resolved more = o.resolved names := by
  have hrequest : o.requestMessage.typeName ∈ names := ho _ (by simp [messages])
  have hresponse : o.responseMessage.typeName ∈ names := ho _ (by simp [messages])
  rw [resolved, resolved, Message.handle_mono hp hrequest, Message.handle_mono hp hresponse]

theorem EndpointDeclaration.resolved_mono {names more : List String} (hp : names <+: more)
    {e : EndpointDeclaration} (he : ∀ o ∈ e.operations, ∀ m ∈ o.messages, m.typeName ∈ names) :
    e.resolved more = e.resolved names := by
  have hoperations : e.operations.map (·.resolved more) = e.operations.map (·.resolved names) :=
    List.map_congr_left fun o ho => OperationDeclaration.resolved_mono hp (he o ho)
  rw [resolved, resolved, hoperations]

namespace TypeGraph

variable {g : TypeGraph} {L : Ledger}

/-! ## Messages follow their events -/

theorem payloadType_follows (hm : g.Mirrors L .nothing) (name : String) (p : Payload) :
    (payloadType name p).Follows g L
      (p.baseEvents name ++ wrapperEvents (p.baseName name) (.ofPayload (some p)))
      fun h g' L' => L'.handle? (wrappedName (p.baseName name) (.ofPayload (some p))) = some h ∧
        g'.Mirrors L' .nothing := by
  unfold payloadType Payload.baseEvents Payload.baseName
  cases p.reference? with
  | some r =>
      refine (resolve_follows hm r.target).bind ?_
      rintro h _ _ - ⟨hh, rfl, rfl⟩
      exact wrap_follows hm hh _
  | none =>
      refine (synthesize_follows hm name p).bind ?_
      rintro h g₁ L₁ - ⟨hh, hm₁⟩
      exact wrap_follows hm₁ hh _

/-- The type of a message, as requests and responses have it. -/
theorem message_follows (hm : g.Mirrors L .nothing) (m : Message) :
    (match m.payload with
      | some p => payloadType m.inlineName p
      | none => typeFor m.substituteName : Build Handle).Follows g L m.events
      fun h g' L' => L'.handle? m.typeName = some h ∧ g'.Mirrors L' .nothing := by
  unfold Message.events Message.typeName
  cases m.payload with
  | some p => exact payloadType_follows hm m.inlineName p
  | none => exact typeFor_follows hm m.substituteName

/-! ## Operations and endpoints follow their events -/

theorem convertOperation_follows (hm : g.Mirrors L .nothing) (o : OperationDeclaration) :
    (convertOperation o).Follows g L o.events fun operation g' L' =>
      operation = o.resolved L'.names ∧ (∀ m ∈ o.messages, m.typeName ∈ L'.names) ∧
        g'.Mirrors L' .nothing := by
  have hevents : o.events = o.requestMessage.events ++ (o.responseMessage.events ++ []) := by
    simp [OperationDeclaration.events, OperationDeclaration.messages]
  rw [hevents]
  refine (message_follows hm o.requestMessage).bind ?_
  rintro request g₁ L₁ - ⟨hrequest, hm₁⟩
  refine (message_follows hm₁ o.responseMessage).bind ?_
  rintro response g₂ L₂ hL₂ ⟨hresponse, hm₂⟩
  have hrequest₂ := Ledger.handle?_mono (Ledger.run_extends hL₂) hrequest
  obtain ⟨hmem, rfl⟩ := Ledger.handle?_eq_some.mp hrequest₂
  obtain ⟨hmem', rfl⟩ := Ledger.handle?_eq_some.mp hresponse
  refine .pure ⟨rfl, ?_, hm₂⟩
  simp [OperationDeclaration.messages, hmem, hmem']

theorem convertOperations_follows (hm : g.Mirrors L .nothing) (os : List OperationDeclaration) :
    (convertOperations os).Follows g L (os.flatMap (·.events)) fun operations g' L' =>
      operations = os.map (·.resolved L'.names) ∧
        (∀ o ∈ os, ∀ m ∈ o.messages, m.typeName ∈ L'.names) ∧ g'.Mirrors L' .nothing := by
  induction os generalizing g L with
  | nil => exact .pure ⟨rfl, by simp, hm⟩
  | cons o rest ih =>
      refine (convertOperation_follows hm o).bind ?_
      rintro _ g₁ L₁ - ⟨rfl, hnames, hm₁⟩
      refine (ih hm₁).bind_pure ?_
      rintro _ g₂ L₂ hL₂ ⟨rfl, hrest, hm₂⟩
      have hp := Ledger.names_mono (Ledger.run_extends hL₂)
      refine ⟨?_, ?_, hm₂⟩
      · rw [List.map_cons, OperationDeclaration.resolved_mono hp hnames]
      · exact List.forall_mem_cons.mpr ⟨fun m hmem => hp.subset (hnames m hmem), hrest⟩

theorem convertEndpoint_follows (hm : g.Mirrors L .nothing) (e : EndpointDeclaration) :
    (convertEndpoint e).Follows g L e.events fun endpoint g' L' =>
      endpoint = e.resolved L'.names ∧
        (∀ o ∈ e.operations, ∀ m ∈ o.messages, m.typeName ∈ L'.names) ∧
          g'.Mirrors L' .nothing := by
  refine (convertOperations_follows hm e.operations).bind_pure ?_
  rintro _ g' L' - ⟨rfl, hnames, hm'⟩
  exact ⟨rfl, hnames, hm'⟩

theorem convertEndpoints_follows (hm : g.Mirrors L .nothing) (es : List EndpointDeclaration) :
    (convertEndpoints es).Follows g L (es.flatMap (·.events)) fun endpoints g' L' =>
      endpoints = es.map (·.resolved L'.names) ∧
        (∀ e ∈ es, ∀ o ∈ e.operations, ∀ m ∈ o.messages, m.typeName ∈ L'.names) ∧
          g'.Mirrors L' .nothing := by
  induction es generalizing g L with
  | nil => exact .pure ⟨rfl, by simp, hm⟩
  | cons e rest ih =>
      refine (convertEndpoint_follows hm e).bind ?_
      rintro _ g₁ L₁ - ⟨rfl, hnames, hm₁⟩
      refine (ih hm₁).bind_pure ?_
      rintro _ g₂ L₂ hL₂ ⟨rfl, hrest, hm₂⟩
      have hp := Ledger.names_mono (Ledger.run_extends hL₂)
      refine ⟨?_, ?_, hm₂⟩
      · rw [List.map_cons, EndpointDeclaration.resolved_mono hp hnames]
      · exact List.forall_mem_cons.mpr
          ⟨fun o ho m hmem => hp.subset (hnames o ho m hmem), hrest⟩

/-- Building an interface follows the plan of its declarations and endpoints. -/
theorem buildInterface_follows (ts : List TypeDeclaration) (es : List EndpointDeclaration) :
    (buildInterface ts es).Follows .empty [] (plan ts es) fun endpoints g' L' =>
      endpoints = es.map (·.resolved L'.names) ∧ (∀ m ∈ messages es, m.typeName ∈ L'.names) ∧
        g'.Mirrors L' .nothing := by
  refine (declareAll_follows ts).bind ?_
  intro _ g₁ L₁ _ hm₁
  refine (convertEndpoints_follows hm₁ es).mono ?_
  rintro endpoints g₂ L₂ - ⟨heq, hnames, hm₂⟩
  refine ⟨heq, ?_, hm₂⟩
  intro m hmem
  obtain ⟨e, he, o, ho, hmo⟩ := mem_messages.mp hmem
  exact hnames e he o ho m hmo

end TypeGraph

/-! ## Whole interfaces -/

/-- A model that is the one of a ledger. -/
structure Model.Mirrors (m : Model) (L : Ledger) (es : List EndpointDeclaration) : Prop where
  registry : m.registry.Mirrors L .nothing
  endpoints_eq : m.endpoints = es.map (·.resolved L.names)
  assigned : ∀ msg ∈ messages es, msg.typeName ∈ L.names

/-- The handle of a message has the name of the message's type. -/
theorem Model.Mirrors.nameOf_handle {m : Model} {L : Ledger} {es : List EndpointDeclaration}
    (hm : m.Mirrors L es) {msg : Message} (hmsg : msg ∈ messages es) :
    m.registry.nameOf (msg.handle L.names) = .ok msg.typeName :=
  hm.registry.nameOf_eq (Ledger.handle?_of_mem (hm.assigned msg hmsg))

/-- A model is built from the ledger that follows the plan. -/
theorem Model.build_eq_ok {ts : List TypeDeclaration} {es : List EndpointDeclaration} {m : Model}
    (h : Model.build ts es = .ok m) :
    ∃ L, Ledger.run [] (plan ts es) = .ok L ∧ m.Mirrors L es := by
  have hfollows := buildInterface_follows ts es
  unfold build at h
  cases hL : Ledger.run [] (plan ts es) with
  | ok L =>
      obtain ⟨endpoints, g, hrun, heq, hnames, hm⟩ := hfollows.ok hL
      rw [hrun] at h
      cases h
      exact ⟨L, rfl, hm.registry, heq, hnames⟩
  | error e =>
      have herr := hfollows.error hL
      cases hrun : (buildInterface ts es).runFrom .empty with
      | mk outcome g =>
          rw [hrun] at herr h
          cases herr
          cases h

/-- Where the ledger cannot follow the plan, building fails in the same way. -/
theorem Model.build_eq_error {ts : List TypeDeclaration} {es : List EndpointDeclaration}
    {e : ModelError} : Model.build ts es = .error e ↔ Ledger.run [] (plan ts es) = .error e := by
  have hfollows := buildInterface_follows ts es
  unfold build
  cases hL : Ledger.run [] (plan ts es) with
  | ok L =>
      obtain ⟨endpoints, g, hrun, -⟩ := hfollows.ok hL
      simp [hrun]
  | error err =>
      have herr := hfollows.error hL
      cases hrun : (buildInterface ts es).runFrom .empty with
      | mk outcome g =>
          rw [hrun] at herr
          cases herr
          simp

end ServiceContract
