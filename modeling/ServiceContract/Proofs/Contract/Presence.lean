import ServiceContract.Proofs.Contract.References
import ServiceContract.Proofs.Interface.Wrapping

/-!
# Payloads that are there and payloads that are not

For a payload that is not declared a type stands in that is found by its name, and an answer is
taken for none by the name of its type. A structure of such a name therefore takes the place of a
missing payload, and a reference to it is not shown.
-/

namespace ServiceContract

open TypeGraph

variable {ts : List TypeDeclaration} {es : List EndpointDeclaration} {m : Model} {L : Ledger}

/-! ## Substitutes -/

/-- Where there is no payload, the type of the handle is the substitute, which has no fields. -/
def Message.Substituted (r : Registry) (msg : Message) (h : Handle) : Prop :=
  msg.payload = none → r.get? h = some ⟨msg.substituteName, []⟩

/-- No structure with fields has the name of the substitute for the message. -/
def SubstituteIsFree (ts : List TypeDeclaration) (es : List EndpointDeclaration) (msg : Message) :
    Prop :=
  msg.payload = none → ∀ e ∈ expansion ts es, e.origin.IsStructure →
    e.name = msg.substituteName → e.outlines = []

/-- An entry that has the name of a substitute is a structure or has no fields. -/
theorem outlines_of_substituteName {msg : Message} (hmsg : msg ∈ messages es) {e : Registration}
    (he : e ∈ expansion ts es) (hname : e.name = msg.substituteName) :
    e.origin.IsStructure ∨ e.outlines = [] := by
  rcases mem_expansion_cases he with hs | ⟨m', -, hw | rfl⟩
  · exact .inl hs
  · exact (wrapper_name_ne_substituteName hw hmsg hname).elim
  · exact .inr rfl

/-- A substitute has no fields exactly when no structure with fields has its name. -/
theorem substituted_iff (hL : Ledger.run [] (plan ts es) = .ok L) (hm : m.Mirrors L es)
    {msg : Message} (hmsg : msg ∈ messages es) :
    msg.Substituted m.registry (msg.handle L.names) ↔ SubstituteIsFree ts es msg := by
  refine imp_congr_right fun hnone => ?_
  have hassigned := hm.assigned msg hmsg
  have htype : msg.typeName = msg.substituteName := by
    rw [Message.typeName, hnone]
  obtain ⟨e, he⟩ := Ledger.exists_record? hassigned
  have hget := hm.registry.get?_eq (Ledger.handle?_of_mem hassigned)
  rw [he] at hget
  have hentry : m.registry.get? (msg.handle L.names) = some ⟨msg.substituteName, []⟩ ↔
      ∀ e, L.record? msg.substituteName = some e → e.outlines = [] := by
    rw [Message.handle, hget, ← htype, he]
    simp [Registration.dataType, Registration.filled, Pending.nothing, Ledger.record?_name he]
  exact hentry.trans (entry_outlines_iff hL (w := ⟨msg.substituteName, .substitute⟩)
    fun e he hname => outlines_of_substituteName hmsg he hname)

/-! ## Answers that look like none -/

/-- The response refers to a type that has the name of the substitute for responses. -/
def OperationDeclaration.AnswersVoid (o : OperationDeclaration) : Prop :=
  ∃ ref, o.response = some (.single (.reference ref)) ∧ .ofMarker ref.card = Cardinality.scalar ∧
    ref.target = voidResponseName

/-- The name of an inline response is too long. -/
theorem responseTypeName_ne_void (operation : String) :
    responseTypeName operation ≠ voidResponseName := by
  intro heq
  have hlength := congrArg String.length heq
  have hending : "ResponseDataType".length = 16 := by decide
  have hvoid : voidResponseName.length = 12 := by decide
  rw [responseTypeName, String.length_append, hending, hvoid] at hlength
  omega

/-- The type of a response that is declared has the name of the substitute only if it is referred
to. -/
theorem typeName_eq_void_iff {o : OperationDeclaration} {p : Payload} (hp : o.response = some p) :
    o.responseMessage.typeName = voidResponseName ↔ o.AnswersVoid := by
  have htype : o.responseMessage.typeName =
      wrappedName (p.baseName (responseTypeName o.name)) (.ofPayload (some p)) := by
    simp [Message.typeName, OperationDeclaration.responseMessage, hp]
  rw [htype]
  constructor
  · intro hvoid
    by_cases hc : Cardinality.ofPayload (some p) = .scalar
    · rw [hc, show wrappedName _ .scalar = _ from rfl] at hvoid
      cases p with
      | tree t => exact (responseTypeName_ne_void o.name hvoid).elim
      | atoms l => exact (responseTypeName_ne_void o.name hvoid).elim
      | single parameter =>
          cases parameter with
          | atomic a => exact (responseTypeName_ne_void o.name hvoid).elim
          | generic n => exact (responseTypeName_ne_void o.name hvoid).elim
          | reference ref => exact ⟨ref, hp, hc, hvoid⟩
    · have hlast := getLast?_wrappedName (p.baseName (responseTypeName o.name)) hc
      have hvoidLast : voidResponseName.toList.getLast? = some 'e' := by decide
      rw [hvoid, hvoidLast] at hlast
      split at hlast <;> simp at hlast
  · rintro ⟨ref, href, hc, htarget⟩
    obtain rfl : p = .single (.reference ref) := Option.some.inj (hp.symm.trans href)
    rw [show Cardinality.ofPayload (some (.single (.reference ref))) = .scalar from hc]
    exact htarget

namespace Contract

variable {heading : Heading} {document : Value} {e : Endpoint} {o : Operation}

/-! ## Operations -/

def content? (document : Value) (e : Endpoint) (o : Operation) : Option Value :=
  document.at? ["paths", path e o, o.method.keyword, "responses", "200", "content"]

def body? (document : Value) (e : Endpoint) (o : Operation) : Option Value :=
  document.at? ["paths", path e o, o.method.keyword, "requestBody"]

theorem content?_isSome_iff (h : render heading m = .ok document) (he : e ∈ m.endpoints)
    (ho : o ∈ e.operations) {t : DataType} (ht : m.registry.get? o.response = some t) :
    (content? document e o).isSome ↔ t.name ≠ voidResponseName := by
  obtain ⟨v, hv, hat⟩ := at?_operation h he ho
  obtain ⟨-, t', -, ht', -, hresponses⟩ := operation_eq_ok hv
  obtain rfl : t = t' := Option.some.inj (ht.symm.trans ht')
  rw [content?, hat, ← List.singleton_append, Value.at?_append, hresponses]
  by_cases hvoid : t.name = voidResponseName
  · simp [response, hvoid]
  · simp [response, hvoid]

theorem body?_eq_none (h : render heading m = .ok document) (he : e ∈ m.endpoints)
    (ho : o ∈ e.operations) {p : OperationParameter} (hp : o.parameters = [p]) {name : String}
    (ht : m.registry.get? p.type = some ⟨name, []⟩) : body? document e o = none := by
  obtain ⟨v, hv, hat⟩ := at?_operation h he ho
  obtain ⟨body, -, hbody, -, hrequest, -⟩ := operation_eq_ok hv
  rw [hp, requestBody_singleton ht] at hbody
  rw [body?, hat, hrequest, ← Except.ok.inj hbody]
  simp

/-- A contract shows the payloads that an operation declares, and no others: the answer has content
just if a response is declared, no body is written where no request is, and what stands in for a
missing payload has no fields. -/
structure ShowsPayloads (document : Value) (r : Registry) (e : Endpoint)
    (declared : OperationDeclaration) (o : Operation) : Prop where
  content : (content? document e o).isSome ↔ declared.response.isSome
  body : declared.request = none → body? document e o = none
  substitutes : List.Forall₂ (·.Substituted r) declared.messages o.types

theorem showsPayloads_iff (h : render heading m = .ok document)
    (hL : Ledger.run [] (plan ts es) = .ok L) (hm : m.Mirrors L es) {e : EndpointDeclaration}
    (he : e ∈ es) {o : OperationDeclaration} (ho : o ∈ e.operations) :
    ShowsPayloads document m.registry (e.resolved L.names) o (o.resolved L.names) ↔
      (∀ msg ∈ o.messages, SubstituteIsFree ts es msg) ∧ ¬ o.AnswersVoid := by
  have he' : e.resolved L.names ∈ m.endpoints := by
    rw [hm.endpoints_eq]
    exact List.mem_map_of_mem he
  have ho' : o.resolved L.names ∈ (e.resolved L.names).operations := List.mem_map_of_mem ho
  have hmessages : ∀ msg ∈ o.messages, msg ∈ messages es := fun msg hmsg =>
    mem_messages.mpr ⟨e, he, o, ho, hmsg⟩
  have hsubstitutes :
      List.Forall₂ (·.Substituted m.registry) o.messages (o.resolved L.names).types ↔
        ∀ msg ∈ o.messages, SubstituteIsFree ts es msg := by
    rw [show (o.resolved L.names).types = o.messages.map (·.handle L.names) from rfl,
      List.forall₂_map_right_iff, List.forall₂_same]
    exact forall₂_congr fun msg hmsg => substituted_iff hL hm (hmessages msg hmsg)
  have hcontent : (content? document (e.resolved L.names) (o.resolved L.names)).isSome ↔
      o.responseMessage.typeName ≠ voidResponseName := by
    obtain ⟨t, ht, hname⟩ := Registry.nameOf_eq_ok.mp
      (hm.nameOf_handle (hmessages _ (List.mem_cons_of_mem _ List.mem_cons_self)))
    rw [content?_isSome_iff h he' ho' ht, hname]
  have hanswer : (o.responseMessage.typeName ≠ voidResponseName ↔ o.response.isSome) ↔
      ¬ o.AnswersVoid := by
    cases hp : o.response with
    | some p => simp [typeName_eq_void_iff hp]
    | none =>
        have hvoid : o.responseMessage.typeName = voidResponseName := by
          simp [Message.typeName, OperationDeclaration.responseMessage, hp]
        simp [hvoid, OperationDeclaration.AnswersVoid, hp]
  rw [← hsubstitutes, ← hanswer, ← hcontent]
  constructor
  · rintro ⟨hcontent, -, hsubstitutes⟩
    exact ⟨hsubstitutes, hcontent⟩
  · rintro ⟨hsubstitutes, hcontent⟩
    refine ⟨hcontent, fun hnone => ?_, hsubstitutes⟩
    obtain _ | ⟨hrequest, -⟩ := hsubstitutes
    exact body?_eq_none h he' ho' rfl (hrequest hnone)

/-- A contract shows exactly the payloads that are declared just if no structure with fields has the
name of a substitute that is used, and no response refers to a type of the name that stands for
none. -/
theorem render_showsPayloads_iff (hbuild : Model.build ts es = .ok m)
    (h : render heading m = .ok document) :
    List.Forall₂ (fun declared endpoint => List.Forall₂
      (ShowsPayloads document m.registry endpoint) declared.operations endpoint.operations)
      es m.endpoints ↔
      (∀ msg ∈ messages es, SubstituteIsFree ts es msg) ∧
        ∀ e ∈ es, ∀ o ∈ e.operations, ¬ o.AnswersVoid := by
  obtain ⟨L, hL, hm⟩ := Model.build_eq_ok hbuild
  have heach : List.Forall₂ (fun declared endpoint => List.Forall₂
      (ShowsPayloads document m.registry endpoint) declared.operations endpoint.operations)
      es m.endpoints ↔ ∀ e ∈ es, ∀ o ∈ e.operations,
        (∀ msg ∈ o.messages, SubstituteIsFree ts es msg) ∧ ¬ o.AnswersVoid := by
    rw [hm.endpoints_eq, List.forall₂_map_right_iff, List.forall₂_same]
    refine forall₂_congr fun e he => ?_
    rw [show (e.resolved L.names).operations = e.operations.map (·.resolved L.names) from rfl,
      List.forall₂_map_right_iff, List.forall₂_same]
    exact forall₂_congr fun o ho => showsPayloads_iff h hL hm he ho
  rw [heach]
  simp only [messages, List.mem_flatMap]
  constructor
  · intro hall
    refine ⟨?_, fun e he o ho => (hall e he o ho).2⟩
    rintro msg ⟨e, he, o, ho, hmsg⟩
    exact (hall e he o ho).1 msg hmsg
  · rintro ⟨hfree, hanswers⟩ e he o ho
    exact ⟨fun msg hmsg => hfree msg ⟨e, he, o, ho, hmsg⟩, hanswers e he o ho⟩

theorem render_showsPayloads_iff_linked :
    ∃ document, render ⟨"Shop", none, "1.0"⟩ linkedModel = .ok document ∧
      (List.Forall₂ (fun declared endpoint => List.Forall₂
        (ShowsPayloads document linkedModel.registry endpoint) declared.operations
          endpoint.operations) linkedEndpoints linkedModel.endpoints ↔
        (∀ msg ∈ messages linkedEndpoints, SubstituteIsFree linkedTypes linkedEndpoints msg) ∧
          ∀ e ∈ linkedEndpoints, ∀ o ∈ e.operations, ¬ o.AnswersVoid) := by
  obtain ⟨document, h⟩ := render_linked
  exact ⟨document, h, render_showsPayloads_iff build_linked h⟩

/-- A type that has the name of the substitute for the request of an operation. -/
def takenTypes : List TypeDeclaration :=
  [⟨"CreateRequestMessage", .atoms ⟨none, [⟨some "id", .int, none⟩], none⟩⟩]

def takenEndpoints : List EndpointDeclaration :=
  [⟨"orders", none, [⟨"create", none, some .post, none, none⟩]⟩]

def takenModel : Model where
  registry :=
    { types := [⟨"CreateRequestMessage", [⟨"id", .primitive .int, false, false⟩]⟩,
        ⟨"VoidResponse", []⟩]
      index := [("VoidResponse", ⟨1⟩), ("CreateRequestMessage", ⟨0⟩)] }
  endpoints := [⟨"orders", none, [⟨"create", none, .post, [⟨"input", ⟨0⟩⟩], ⟨1⟩⟩]⟩]

/-- A body is required for a request that is not declared. -/
theorem render_showsMissingRequest :
    Model.build takenTypes takenEndpoints = .ok takenModel ∧
      ∃ document, render ⟨"Shop", none, "1.0"⟩ takenModel = .ok document ∧
        document.at? ["paths", "/orders/create", "post", "requestBody"] =
          some (.map [("required", .bool true), ("content", jsonContent "CreateRequestMessage")]) ∧
        ¬ List.Forall₂ (fun declared endpoint => List.Forall₂
          (ShowsPayloads document takenModel.registry endpoint) declared.operations
            endpoint.operations) takenEndpoints takenModel.endpoints := by
  have hat : (render ⟨"Shop", none, "1.0"⟩ takenModel).toOption.bind
      (·.at? ["paths", "/orders/create", "post", "requestBody"]) =
        some (.map
          [("required", .bool true), ("content", jsonContent "CreateRequestMessage")]) := by
    decide +kernel
  obtain ⟨document, h, hbody⟩ := exists_of_toOption_bind hat
  refine ⟨by decide +kernel, document, h, hbody, fun hall => ?_⟩
  obtain _ | ⟨hoperations, -⟩ := hall
  obtain _ | ⟨hcreate, -⟩ := hoperations
  have hnone : document.at? ["paths", "/orders/create", "post", "requestBody"] = none :=
    hcreate.body rfl
  rw [hbody] at hnone
  cases hnone

end Contract

end ServiceContract
