import ServiceContract.Proofs.Interface.Wrapping

/-!
# Names of messages

The name of the type that an operation takes or returns is read off the operation alone. It does not
matter what else is declared, and two messages share a type exactly when they share a name.
-/

namespace ServiceContract

open TypeGraph

/-! ## Names as they are declared -/

/-- What a marker adds to the name of a type. -/
def Marker.ending : Option Marker → String
  | some .zeroOrMore | some .atLeastOne => "List"
  | some .zeroOrOne => "Optional"
  | some .exactlyOne | none => ""

/-- The name of the type of a payload: that of the type it refers to, or the name that an inline
payload gets, each with the ending of the payload's own marker. -/
def Payload.typeName (inlineName : String) : Payload → String
  | .single (.reference r) => r.target ++ Marker.ending r.card
  | .single (.atomic a) => inlineName ++ Marker.ending a.card
  | .single (.generic g) => inlineName ++ Marker.ending g.card
  | .tree t => inlineName ++ Marker.ending t.card
  | .atoms l => inlineName ++ Marker.ending l.card

/-- The name of the type that an operation takes. -/
def OperationDeclaration.inputName (o : OperationDeclaration) : String :=
  match o.request with
  | some p => p.typeName (o.name ++ "RequestDataType")
  | none => Text.capitalize o.name ++ "RequestMessage"

/-- The name of the type that an operation returns. -/
def OperationDeclaration.outputName (o : OperationDeclaration) : String :=
  match o.response with
  | some p => p.typeName (Text.capitalize o.name ++ "ResponseDataType")
  | none => "VoidResponse"

/-- The names of the types of all messages: for every operation in order, the one it takes and the
one it returns. -/
def messageNames (es : List EndpointDeclaration) : List String :=
  es.flatMap fun e => e.operations.flatMap fun o => [o.inputName, o.outputName]

/-- The types of all messages, in the same order. -/
def Model.messageTypes (m : Model) : List Handle :=
  m.endpoints.flatMap fun e => e.operations.flatMap (·.types)

/-! ## Operations as they are declared -/

/-- An operation is what its declaration says, with one parameter, and takes and returns the types
of the names that are read off the declaration. -/
structure Operation.IsDeclared (r : Registry) (declared : OperationDeclaration) (o : Operation) :
    Prop where
  name_eq : o.name = declared.name
  description_eq : o.description = declared.description
  method_eq : o.method = declared.method.getD .post
  parameters : ∃ input, o.parameters = [⟨"input", input⟩] ∧ r.nameOf input = .ok declared.inputName
  response : r.nameOf o.response = .ok declared.outputName

/-- An endpoint has the operations of its declaration, in order. -/
structure Endpoint.IsDeclared (r : Registry) (declared : EndpointDeclaration) (e : Endpoint) :
    Prop where
  name_eq : e.name = declared.name
  description_eq : e.description = declared.description
  operations : List.Forall₂ (Operation.IsDeclared r) declared.operations e.operations

/-- A model has the endpoints of its declarations, in order, and one type for all messages of one
name. -/
structure Model.IsDeclared (m : Model) (es : List EndpointDeclaration) : Prop where
  endpoints : List.Forall₂ (Endpoint.IsDeclared m.registry) es m.endpoints
  messages_length : m.messageTypes.length = (messageNames es).length
  shared : ∀ a ∈ (messageNames es).zip m.messageTypes, ∀ b ∈ (messageNames es).zip m.messageTypes,
    (a.2 = b.2 ↔ a.1 = b.1)

/-! ## Names that building gives -/

theorem wrappedName_ofMarker (base : String) (marker : Option Marker) :
    wrappedName base (.ofMarker marker) = base ++ Marker.ending marker := by
  cases marker with
  | none => exact (String.append_empty).symm
  | some mark =>
      cases mark with
      | exactlyOne => exact (String.append_empty).symm
      | zeroOrOne => rfl
      | zeroOrMore => rfl
      | atLeastOne => rfl

/-- Building wraps the type of a payload under the name that is read off the payload. -/
theorem Payload.wrappedName_baseName (inlineName : String) (p : Payload) :
    wrappedName (p.baseName inlineName) (.ofPayload (some p)) = p.typeName inlineName := by
  cases p with
  | tree t => exact wrappedName_ofMarker inlineName t.card
  | atoms l => exact wrappedName_ofMarker inlineName l.card
  | single parameter =>
      cases parameter with
      | atomic a => exact wrappedName_ofMarker inlineName a.card
      | generic g => exact wrappedName_ofMarker inlineName g.card
      | reference r => exact wrappedName_ofMarker r.target r.card

theorem OperationDeclaration.typeName_requestMessage (o : OperationDeclaration) :
    o.requestMessage.typeName = o.inputName := by
  unfold Message.typeName requestMessage inputName
  cases o.request with
  | none => rfl
  | some p => exact p.wrappedName_baseName (requestTypeName o.name)

theorem OperationDeclaration.typeName_responseMessage (o : OperationDeclaration) :
    o.responseMessage.typeName = o.outputName := by
  unfold Message.typeName responseMessage outputName
  cases o.response with
  | none => rfl
  | some p => exact p.wrappedName_baseName (responseTypeName o.name)

theorem messageNames_eq (es : List EndpointDeclaration) :
    messageNames es = (messages es).map (·.typeName) := by
  simp only [messageNames, messages, List.map_flatMap, OperationDeclaration.messages, List.map_cons,
    List.map_nil, OperationDeclaration.typeName_requestMessage,
    OperationDeclaration.typeName_responseMessage]

/-! ## Models as they are declared -/

variable {m : Model} {L : Ledger} {es : List EndpointDeclaration}

theorem Model.Mirrors.messageTypes_eq (hm : m.Mirrors L es) :
    m.messageTypes = (messages es).map (·.handle L.names) := by
  rw [messageTypes, hm.endpoints_eq, messages, List.flatMap_map, List.map_flatMap]
  refine List.flatMap_congr fun e _ => ?_
  rw [EndpointDeclaration.resolved, List.flatMap_map, List.map_flatMap]
  rfl

theorem Model.Mirrors.isDeclared_operation (hm : m.Mirrors L es) {e : EndpointDeclaration}
    (he : e ∈ es) {o : OperationDeclaration} (ho : o ∈ e.operations) :
    Operation.IsDeclared m.registry o (o.resolved L.names) := by
  have hmessages : ∀ msg ∈ o.messages, msg ∈ messages es := fun msg hmsg =>
    mem_messages.mpr ⟨e, he, o, ho, hmsg⟩
  have hrequest := hm.nameOf_handle (hmessages _ List.mem_cons_self)
  have hresponse := hm.nameOf_handle (hmessages _ (List.mem_cons_of_mem _ List.mem_cons_self))
  rw [o.typeName_requestMessage] at hrequest
  rw [o.typeName_responseMessage] at hresponse
  exact ⟨rfl, rfl, rfl, ⟨_, rfl, hrequest⟩, hresponse⟩

/-- A model that is built has the declared endpoints and operations, whose messages have the types
of the names that are read off them. -/
theorem Model.build_isDeclared {ts : List TypeDeclaration} (h : Model.build ts es = .ok m) :
    m.IsDeclared es := by
  obtain ⟨L, -, hm⟩ := Model.build_eq_ok h
  refine ⟨?_, ?_, ?_⟩
  · rw [hm.endpoints_eq, List.forall₂_map_right_iff, List.forall₂_same]
    intro e he
    refine ⟨rfl, rfl, ?_⟩
    rw [show (e.resolved L.names).operations = e.operations.map (·.resolved L.names) from rfl,
      List.forall₂_map_right_iff, List.forall₂_same]
    exact fun o ho => hm.isDeclared_operation he ho
  · rw [hm.messageTypes_eq, messageNames_eq, List.length_map, List.length_map]
  · rw [hm.messageTypes_eq, messageNames_eq, List.zip_map', List.forall_mem_map]
    intro msg hmsg
    rw [List.forall_mem_map]
    intro other _
    show msg.handle L.names = other.handle L.names ↔ msg.typeName = other.typeName
    rw [Message.handle, Message.handle, Handle.mk.injEq, List.idxOf_inj (hm.assigned msg hmsg)]

/-- Orders are returned by two operations under markers that both make a list, and one of them takes
an inline payload that may be missing. -/
def searchEndpoints : List EndpointDeclaration :=
  [⟨"orders", none, [⟨"all", none, some .get, none,
      some (.single (.reference ⟨none, "Order", some .zeroOrMore⟩))⟩]⟩,
    ⟨"search", some "by text", [⟨"find", none, none,
      some (.atoms ⟨none, [⟨some "text", .string, none⟩], some .zeroOrOne⟩),
      some (.single (.reference ⟨none, "Order", some .atLeastOne⟩))⟩]⟩]

theorem Model.build_isDeclared_search :
    ∃ m, Model.build orderTypes searchEndpoints = .ok m ∧ m.IsDeclared searchEndpoints := by
  obtain ⟨m, h⟩ := exists_of_isOk (x := Model.build orderTypes searchEndpoints) (by decide +kernel)
  exact ⟨m, h, Model.build_isDeclared h⟩

end ServiceContract
