import ServiceContract.Proofs.Contract.SchemaReferences
import ServiceContract.Proofs.Interface.Expansion

/-!
# References of a contract

A contract has one schema for every registered type, and every reference in it leads to one of
them. What it writes for an answer, a body or a field is a reference to the type that the model has
there, so that two places share a schema exactly when they share a type.
-/

namespace ServiceContract

/-- Where names are distinct, a name tells the handle. -/
theorem Registry.handle_eq_of_name_eq {r : Registry} (hd : (r.types.map (·.name)).Nodup)
    {h h' : Handle} {t t' : DataType} (ht : r.get? h = some t) (ht' : r.get? h' = some t')
    (hname : t.name = t'.name) : h = h' := by
  obtain ⟨i⟩ := h
  obtain ⟨j⟩ := h'
  have hi : (r.types.map (·.name))[i]? = some t.name := by
    rw [List.getElem?_map, show r.types[i]? = some t from ht, Option.map_some]
  have hj : (r.types.map (·.name))[j]? = some t.name := by
    rw [List.getElem?_map, show r.types[j]? = some t' from ht', Option.map_some, hname]
  obtain ⟨hlt, -⟩ := List.getElem?_eq_some_iff.mp hi
  rw [(List.getElem?_inj hlt hd).mp (hi.trans hj.symm)]

namespace Contract

variable {r : Registry} {e : Endpoint} {o : Operation} {v : Value}

/-! ## Operations -/

theorem operation_eq_ok (h : operation r e o = .ok v) :
    ∃ body t, requestBody r o.method o.parameters = .ok body ∧ r.get? o.response = some t ∧
      v.at? ["requestBody"] = body ∧
      v.at? ["responses"] = some (.map [("200", response t.name)]) := by
  obtain ⟨body, hbody, h⟩ := bind_eq_ok.mp h
  obtain ⟨name, hname, h⟩ := bind_eq_ok.mp h
  obtain ⟨t, ht, rfl⟩ := Registry.nameOf_eq_ok.mp hname
  cases h
  refine ⟨body, t, hbody, ht, ?_, ?_⟩
  · cases o.description <;> cases body <;> simp
  · cases o.description <;> cases body <;> simp

/-- The body of a request is that of the type of a parameter. -/
theorem requestBody_eq_ok {method : Method} {ps : List OperationParameter}
    (h : requestBody r method ps = .ok (some v)) :
    ∃ p ∈ ps, ∃ t, r.get? p.type = some t ∧
      v = .map [("required", .bool true), ("content", jsonContent t.name)] := by
  induction ps generalizing v with
  | nil => cases h
  | cons p rest ih =>
      unfold requestBody at h
      split at h
      · cases h
      · obtain ⟨t, ht, h⟩ := bind_eq_ok.mp h
        obtain ⟨later, hlater, h⟩ := bind_eq_ok.mp h
        cases later with
        | some w =>
            cases h
            obtain ⟨q, hq, hbody⟩ := ih hlater
            exact ⟨q, List.mem_cons_of_mem _ hq, hbody⟩
        | none =>
            cases hfields : t.fields.isEmpty with
            | true => simp [hfields, pure, Except.pure] at h
            | false =>
                refine ⟨p, List.mem_cons_self, t, Registry.dataType_eq_ok.mp ht, ?_⟩
                simpa [hfields, pure, Except.pure, eq_comm] using h

/-- A request of one parameter has a body if the method carries one and the parameter's type has
fields. -/
theorem requestBody_singleton {method : Method} {p : OperationParameter} {t : DataType}
    (ht : r.get? p.type = some t) :
    requestBody r method [p] = .ok (if method.hasBody ∧ t.fields ≠ [] then
      some (.map [("required", .bool true), ("content", jsonContent t.name)]) else none) := by
  unfold requestBody
  rw [Registry.dataType_eq_ok.mpr ht]
  cases method.hasBody <;> cases hfields : t.fields <;>
    simp [requestBody, hfields, bind, Except.bind, pure, Except.pure]

/-! ## Schemas at the roots -/

variable {ps : Paths} {document : Value}

/-- The operations that paths hold are found among the members of their value. -/
theorem Paths.mem_values_of_members {path method : String} {item w : Value}
    (hitem : (path, item) ∈ ps.toValue.members) (hw : (method, w) ∈ item.members) :
    w ∈ ps.values := by
  obtain ⟨⟨q, methods⟩, hq, heq⟩ := List.mem_map.mp hitem
  cases heq
  obtain ⟨⟨m, u⟩, hu, heq⟩ := List.mem_map.mp hw
  cases heq
  exact List.mem_flatMap.mpr ⟨_, hq, List.mem_map.mpr ⟨_, hu, rfl⟩⟩

/-- The only schema in the content of a message is a reference. -/
theorem schema_of_jsonContent {name type : String} {media : Value}
    (hmedia : (type, media) ∈ (jsonContent name).members) (hv : media.at? ["schema"] = some v) :
    v = schemaRef name := by
  obtain ⟨-, rfl⟩ : type = "application/json" ∧ media = .map [("schema", schemaRef name)] := by
    simpa [jsonContent] using hmedia
  simpa [eq_comm] using hv

/-- The schema of an answer is a reference, to the type of the response. -/
theorem schema_of_response {t : DataType} {status type : String} {answer media : Value}
    (hanswer : (status, answer) ∈ (Value.map [("200", response t.name)]).members)
    (hmedia : (type, media) ∈ answer.membersAt ["content"]) (hv : media.at? ["schema"] = some v) :
    v = schemaRef t.name := by
  obtain ⟨-, rfl⟩ : status = "200" ∧ answer = response t.name := by simpa using hanswer
  unfold response at hmedia
  split at hmedia
  · simp [Value.membersAt] at hmedia
  · exact schema_of_jsonContent (by simpa [Value.membersAt] using hmedia) hv

theorem resolved_of_get? {h : Handle} {t : DataType} (ht : r.get? h = some t) :
    Resolved (r.types.map (·.name)) (schemaRef t.name) :=
  resolved_schemaRef (List.mem_map_of_mem (List.mem_of_getElem? ht))

/-- Every reference that is reached from the root of a contract is to a registered type. -/
theorem resolved_of_isRoot {heading : Heading} {m : Model} (h : render heading m = .ok document)
    (hv : IsRoot document v) :
    Resolved (m.registry.types.map (·.name)) v := by
  obtain ⟨ps, members, hps, hmembers, rfl⟩ := render_eq_ok h
  have hoperation : ∀ w ∈ ps.values,
      ∃ p : Endpoint × Operation, operation m.registry p.1 p.2 = .ok w := by
    intro w hw
    rcases mem_values_foldlM_addOperation hps w hw with hw | ⟨p, -, hp⟩
    · simp [Paths.values] at hw
    · exact ⟨p, hp⟩
  cases hv with
  | component hcomponent =>
      have hmem : _ ∈ members := Entries.mem_of_mem_ofList
        (by simpa [Value.membersAt] using hcomponent)
      obtain ⟨t, -, -, ht⟩ := mem_schemas hmembers hmem
      exact resolved_typeSchema ht
  | body hitem hw hmedia hschema =>
      obtain ⟨p, hp⟩ := hoperation _
        (Paths.mem_values_of_members (by simpa [Value.membersAt] using hitem) hw)
      obtain ⟨body, -, hbody, -, hat, -⟩ := operation_eq_ok hp
      rw [Value.membersAt, ← List.singleton_append, Value.at?_append, hat] at hmedia
      cases body with
      | none => simp at hmedia
      | some w =>
          obtain ⟨q, -, t, ht, rfl⟩ := requestBody_eq_ok hbody
          rw [schema_of_jsonContent (by simpa using hmedia) hschema]
          exact resolved_of_get? ht
  | answer hitem hw hanswer hmedia hschema =>
      obtain ⟨p, hp⟩ := hoperation _
        (Paths.mem_values_of_members (by simpa [Value.membersAt] using hitem) hw)
      obtain ⟨-, t, -, ht, -, hat⟩ := operation_eq_ok hp
      rw [Value.membersAt, hat] at hanswer
      rw [schema_of_response hanswer hmedia hschema]
      exact resolved_of_get? ht

/-! ## References that are written -/

/-- The reference in the answer of an operation. -/
def answerReference? (document : Value) (e : Endpoint) (o : Operation) : Option Value :=
  document.at? ["paths", path e o, o.method.keyword, "responses", "200", "content",
    "application/json", "schema", "$ref"]

/-- The reference in the body of the request of an operation. -/
def bodyReference? (document : Value) (e : Endpoint) (o : Operation) : Option Value :=
  document.at? ["paths", path e o, o.method.keyword, "requestBody", "content",
    "application/json", "schema", "$ref"]

/-- The property that a type has under a name. -/
def property? (document : Value) (t : DataType) (name : String) : Option Value :=
  document.at? ["components", "schemas", t.name, "properties", name]

/-- A type holds a field that no later field has the name of. -/
def HoldsLast (t : DataType) (field : Field) : Prop :=
  ∃ before after, t.fields = before ++ field :: after ∧ ∀ f ∈ after, f.name ≠ field.name

/-- What a contract writes where the model holds a handle: in answers, in bodies and in the
properties of types. -/
inductive Writes (document : Value) (m : Model) : Handle → Value → Prop where
  | answer {e : Endpoint} {o : Operation} {r : Value} : e ∈ m.endpoints → o ∈ e.operations →
      answerReference? document e o = some r → Writes document m o.response r
  | body {e : Endpoint} {o : Operation} {p : OperationParameter} {r : Value} : e ∈ m.endpoints →
      o ∈ e.operations → p ∈ o.parameters → bodyReference? document e o = some r →
      Writes document m p.type r
  | property {t : DataType} {field : Field} {h : Handle} {v r : Value} : t ∈ m.registry.types →
      HoldsLast t field → field.type = .named h → property? document t field.name = some v →
      fieldReference? v = some r → Writes document m h r

/-- What a contract says of the types of a model. -/
structure DescribesTypes (document : Value) (m : Model) : Prop where
  /-- The types are the components, in order of registration. -/
  schemas : ∃ entries, document.at? ["components", "schemas"] = some (.map entries) ∧
    Entries.keys entries = m.registry.types.map (·.name)
  /-- Every type is there once. -/
  distinct : (m.registry.types.map (·.name)).Nodup
  /-- Every reference is to a component. -/
  resolved : ∀ root, IsRoot document root → ∀ v, Reaches root v → ∀ r, v.at? ["$ref"] = some r →
    ∃ name ∈ m.registry.types.map (·.name), r = .text ("#/components/schemas/" ++ name)
  /-- An answer refers to the type of the response, but to no substitute for one. -/
  answers : ∀ e ∈ m.endpoints, ∀ o ∈ e.operations, ∃ t, m.registry.get? o.response = some t ∧
    answerReference? document e o =
      if t.name = voidResponseName then none else some (reference t.name)
  /-- A body refers to the type of the parameter. -/
  bodies : ∀ e ∈ m.endpoints, ∀ o ∈ e.operations, ∃ p t, o.parameters = [p] ∧
    m.registry.get? p.type = some t ∧ bodyReference? document e o =
      if o.method.hasBody ∧ t.fields ≠ [] then some (reference t.name) else none
  /-- A property refers to the type of the field. -/
  properties : ∀ t ∈ m.registry.types, ∀ field, HoldsLast t field →
    ∃ v, property? document t field.name = some v ∧
      ((∃ p, field.type = .primitive p ∧ fieldReference? v = none) ∨
        ∃ h u, field.type = .named h ∧ m.registry.get? h = some u ∧
          fieldReference? v = some (reference u.name))
  /-- Two places have one reference just if they have one type. -/
  shared : ∀ h h' r r', Writes document m h r → Writes document m h' r' → (r = r' ↔ h = h')
  /-- Two operations have one answer just if they return one type. -/
  answers_shared : ∀ e ∈ m.endpoints, ∀ o ∈ e.operations, ∀ e' ∈ m.endpoints,
    ∀ o' ∈ e'.operations,
      (answerReference? document e o = answerReference? document e' o' ↔ o.response = o'.response)

variable {heading : Heading} {m : Model}

/-- An operation stands under its path and method. -/
theorem at?_operation (h : render heading m = .ok document) (he : e ∈ m.endpoints)
    (ho : o ∈ e.operations) : ∃ v, operation m.registry e o = .ok v ∧
      ∀ rest, document.at? ("paths" :: path e o :: o.method.keyword :: rest) = v.at? rest := by
  obtain ⟨ps, members, hps, -, rfl⟩ := render_eq_ok h
  obtain ⟨v, hv, hfind⟩ := (find?_foldlM_addOperation hps).2 (e, o) (mem_operations.mpr ⟨he, ho⟩)
  refine ⟨v, hv, fun rest => ?_⟩
  rw [← Paths.at?_toValue hfind rest]
  simp

theorem answerReference?_eq (h : render heading m = .ok document) (he : e ∈ m.endpoints)
    (ho : o ∈ e.operations) : ∃ t, m.registry.get? o.response = some t ∧
      answerReference? document e o =
        if t.name = voidResponseName then none else some (reference t.name) := by
  obtain ⟨v, hv, hat⟩ := at?_operation h he ho
  obtain ⟨-, t, -, ht, -, hresponses⟩ := operation_eq_ok hv
  refine ⟨t, ht, ?_⟩
  rw [answerReference?, hat, ← List.singleton_append, Value.at?_append, hresponses]
  by_cases hvoid : t.name = voidResponseName
  · simp [response, hvoid]
  · simp [response, hvoid, jsonContent, schemaRef_eq]

theorem bodyReference?_eq (h : render heading m = .ok document) (he : e ∈ m.endpoints)
    (ho : o ∈ e.operations) {p : OperationParameter} (hp : o.parameters = [p]) {t : DataType}
    (ht : m.registry.get? p.type = some t) : bodyReference? document e o =
      if o.method.hasBody ∧ t.fields ≠ [] then some (reference t.name) else none := by
  obtain ⟨v, hv, hat⟩ := at?_operation h he ho
  obtain ⟨body, -, hbody, -, hrequest, -⟩ := operation_eq_ok hv
  rw [hp, requestBody_singleton ht] at hbody
  rw [bodyReference?, hat, ← List.singleton_append, Value.at?_append, hrequest,
    ← Except.ok.inj hbody]
  split
  · simp [jsonContent, schemaRef_eq]
  · rfl

/-- The schema of a type stands under its name. -/
theorem at?_component (h : render heading m = .ok document)
    (hd : (m.registry.types.map (·.name)).Nodup) {t : DataType} (ht : t ∈ m.registry.types) :
    ∃ v, typeSchema m.registry t = .ok v ∧
      ∀ rest, document.at? ("components" :: "schemas" :: t.name :: rest) = v.at? rest := by
  obtain ⟨ps, members, -, hmembers, rfl⟩ := render_eq_ok h
  have hkeys : (members.map Prod.fst).Nodup := (schemas_eq_ok hmembers).1 ▸ hd
  obtain ⟨v, hv, hmem⟩ := exists_mem_schemas hmembers ht
  have hget : Entries.get? t.name members = some v := Entries.get?_of_mem hkeys hmem
  refine ⟨v, hv, fun rest => ?_⟩
  have hcomponent : (Value.map members).at? (t.name :: rest) = v.at? rest := by
    simp [Value.at?, Value.entries?, hget]
  rw [Entries.ofList_of_nodup hkeys, ← hcomponent]
  simp

theorem property?_eq (h : render heading m = .ok document)
    (hd : (m.registry.types.map (·.name)).Nodup) {t : DataType} (ht : t ∈ m.registry.types)
    {field : Field} (hfield : HoldsLast t field) :
    ∃ v, property? document t field.name = some v ∧
      ((∃ p, field.type = .primitive p ∧ fieldReference? v = none) ∨
        ∃ h u, field.type = .named h ∧ m.registry.get? h = some u ∧
          fieldReference? v = some (reference u.name)) := by
  obtain ⟨before, after, hfields, hlast⟩ := hfield
  obtain ⟨w, hw, hat⟩ := at?_component h hd ht
  obtain ⟨v, hv, hreference⟩ := reference_of_typeSchema hw hfields hlast
  exact ⟨v, by rw [property?, hat, hv], hreference⟩

/-- What is written for a handle is a reference to its type. -/
theorem reference_of_writes (h : render heading m = .ok document)
    (hd : (m.registry.types.map (·.name)).Nodup)
    (hparameters : ∀ e ∈ m.endpoints, ∀ o ∈ e.operations, ∃ p t, o.parameters = [p] ∧
      m.registry.get? p.type = some t) {k : Handle} {r : Value} (hr : Writes document m k r) :
    ∃ t, m.registry.get? k = some t ∧ r = reference t.name := by
  cases hr with
  | answer he ho hr =>
      obtain ⟨t, ht, heq⟩ := answerReference?_eq h he ho
      rw [hr] at heq
      split at heq
      · cases heq
      · exact ⟨t, ht, Option.some.inj heq⟩
  | body he ho hp hr =>
      obtain ⟨p, t, hone, ht⟩ := hparameters _ he _ ho
      rw [hone, List.mem_singleton] at hp
      subst hp
      rw [bodyReference?_eq h he ho hone ht] at hr
      split at hr
      · exact ⟨t, ht, (Option.some.inj hr).symm⟩
      · cases hr
  | property ht hfield htype hv hr =>
      obtain ⟨w, hw, hreference⟩ := property?_eq h hd ht hfield
      obtain rfl := Option.some.inj (hv.symm.trans hw)
      rcases hreference with ⟨-, -, hnone⟩ | ⟨k', u, htype', hu, hsome⟩
      · simp [hr] at hnone
      · cases htype.symm.trans htype'
        exact ⟨u, hu, Option.some.inj (hr.symm.trans hsome)⟩

variable {ts : List TypeDeclaration} {es : List EndpointDeclaration}

/-- An operation has one parameter, of a registered type. -/
theorem parameter_eq (h : Model.build ts es = .ok m) (he : e ∈ m.endpoints)
    (ho : o ∈ e.operations) :
    ∃ p t, o.parameters = [p] ∧ m.registry.get? p.type = some t := by
  obtain ⟨L, -, hm⟩ := Model.build_eq_ok h
  rw [hm.endpoints_eq] at he
  obtain ⟨e', he', rfl⟩ := List.mem_map.mp he
  obtain ⟨o', ho', rfl⟩ := List.mem_map.mp ho
  have hmem : o'.requestMessage ∈ messages es :=
    mem_messages.mpr ⟨e', he', o', ho', List.mem_cons_self⟩
  obtain ⟨t, ht, -⟩ := Registry.nameOf_eq_ok.mp (hm.nameOf_handle hmem)
  exact ⟨_, t, rfl, ht⟩

/-- A contract describes the types of its model, by their names. -/
theorem render_describesTypes (hbuild : Model.build ts es = .ok m)
    (h : render heading m = .ok document) : DescribesTypes document m := by
  obtain ⟨L, -, hm⟩ := Model.build_eq_ok hbuild
  have hd : (m.registry.types.map (·.name)).Nodup := by
    rw [hm.registry.names_eq]
    exact hm.registry.distinct
  have hwrites := fun (k : Handle) (r : Value) => reference_of_writes h hd (k := k) (r := r)
    (fun e he o ho => parameter_eq hbuild he ho)
  constructor
  case schemas =>
    obtain ⟨ps, members, -, hmembers, rfl⟩ := render_eq_ok h
    have hnames := (schemas_eq_ok hmembers).1
    rw [Entries.ofList_of_nodup (hnames ▸ hd)]
    exact ⟨members, by simp, hnames⟩
  case distinct => exact hd
  case resolved => exact fun root hroot v hv r hr => resolved_of_isRoot h hroot v hv r hr
  case answers => exact fun e he o ho => answerReference?_eq h he ho
  case bodies =>
    intro e he o ho
    obtain ⟨p, t, hp, ht⟩ := parameter_eq hbuild he ho
    exact ⟨p, t, hp, ht, bodyReference?_eq h he ho hp ht⟩
  case properties => exact fun t ht field hfield => property?_eq h hd ht hfield
  case shared =>
    intro k k' r r' hr hr'
    obtain ⟨t, ht, rfl⟩ := hwrites k r hr
    obtain ⟨t', ht', rfl⟩ := hwrites k' r' hr'
    constructor
    · intro heq
      exact Registry.handle_eq_of_name_eq hd ht ht' (reference_injective heq)
    · rintro rfl
      rw [Option.some.inj (ht.symm.trans ht')]
  case answers_shared =>
    intro e he o ho e' he' o' ho'
    obtain ⟨t, ht, hanswer⟩ := answerReference?_eq h he ho
    obtain ⟨t', ht', hanswer'⟩ := answerReference?_eq h he' ho'
    rw [hanswer, hanswer']
    constructor
    · intro heq
      refine Registry.handle_eq_of_name_eq hd ht ht' ?_
      split at heq <;> split at heq
      · next hvoid hvoid' => exact hvoid.trans hvoid'.symm
      · cases heq
      · cases heq
      · exact reference_injective (Option.some.inj heq)
    · intro heq
      rw [heq] at ht
      rw [Option.some.inj (ht.symm.trans ht')]

/-- Orders that refer to items under a name of their own, which one operation takes and two
return. -/
def linkedTypes : List TypeDeclaration :=
  [⟨"Order", .tree ⟨none, [.single (.reference ⟨some "$ref", "Item", some .zeroOrOne⟩)], none⟩⟩,
    ⟨"Item", .atoms ⟨none, [⟨some "id", .int, none⟩], none⟩⟩]

def linkedEndpoints : List EndpointDeclaration :=
  [⟨"orders", none, [
    ⟨"find", none, some .get, none, some (.single (.reference ⟨none, "Order", none⟩))⟩,
    ⟨"change", none, some .put, some (.single (.reference ⟨none, "Order", none⟩)),
      some (.single (.reference ⟨none, "Order", none⟩))⟩,
    ⟨"drop", none, some .delete, none, none⟩]⟩]

def linkedModel : Model where
  registry :=
    { types := [
        ⟨"Order", [⟨"$ref", .named ⟨1⟩, false, true⟩]⟩,
        ⟨"Item", [⟨"id", .primitive .int, false, false⟩]⟩,
        ⟨"FindRequestMessage", []⟩, ⟨"DropRequestMessage", []⟩, ⟨"VoidResponse", []⟩]
      index := [("VoidResponse", ⟨4⟩), ("DropRequestMessage", ⟨3⟩), ("FindRequestMessage", ⟨2⟩),
        ("Item", ⟨1⟩), ("Order", ⟨0⟩)] }
  endpoints := [⟨"orders", none, [⟨"find", none, .get, [⟨"input", ⟨2⟩⟩], ⟨0⟩⟩,
    ⟨"change", none, .put, [⟨"input", ⟨0⟩⟩], ⟨0⟩⟩, ⟨"drop", none, .delete, [⟨"input", ⟨3⟩⟩], ⟨4⟩⟩]⟩]

theorem build_linked : Model.build linkedTypes linkedEndpoints = .ok linkedModel := by
  decide +kernel

theorem render_linked : ∃ document, render ⟨"Shop", none, "1.0"⟩ linkedModel = .ok document :=
  exists_of_isOk (by decide +kernel)

theorem render_describesTypes_linked :
    Model.build linkedTypes linkedEndpoints = .ok linkedModel ∧
      ∃ document, render ⟨"Shop", none, "1.0"⟩ linkedModel = .ok document ∧
        DescribesTypes document linkedModel := by
  obtain ⟨document, h⟩ := render_linked
  exact ⟨build_linked, document, h, render_describesTypes build_linked h⟩

end Contract

end ServiceContract
