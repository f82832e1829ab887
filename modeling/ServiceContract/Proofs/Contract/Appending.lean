import ServiceContract.Proofs.Contract.Layout
import ServiceContract.Proofs.Interface.Appending

/-!
# Contracts of interfaces that are appended to

What is written for an operation or a type depends on the types that it refers to alone. A contract
therefore keeps what it has when more endpoints are appended: whatever they ask for, no schema and
no operation changes.
-/

namespace ServiceContract

/-! ## Larger registries -/

namespace Registry

variable {r r' : Registry} {h : Handle}

theorem get?_mono (hp : r.types <+: r'.types) {t : DataType} (ht : r.get? h = some t) :
    r'.get? h = some t := by
  obtain ⟨more, hmore⟩ := hp
  obtain ⟨hi, -⟩ := List.getElem?_eq_some_iff.mp ht
  rw [get?, ← hmore, List.getElem?_append_left hi]
  exact ht

theorem dataType_mono (hp : r.types <+: r'.types) {t : DataType} (ht : r.dataType h = .ok t) :
    r'.dataType h = .ok t :=
  dataType_eq_ok.mpr (get?_mono hp (dataType_eq_ok.mp ht))

theorem nameOf_mono (hp : r.types <+: r'.types) {name : String} (hn : r.nameOf h = .ok name) :
    r'.nameOf h = .ok name := by
  obtain ⟨t, ht, hname⟩ := nameOf_eq_ok.mp hn
  exact nameOf_eq_ok.mpr ⟨t, get?_mono hp ht, hname⟩

end Registry

namespace Contract

variable {r r' : Registry} {v : Value}

/-! ## What is written in a larger registry -/

theorem fieldSchema_mono (hp : r.types <+: r'.types) {field : Field}
    (h : fieldSchema r field = .ok v) : fieldSchema r' field = .ok v := by
  unfold fieldSchema at h ⊢
  cases ht : field.type with
  | primitive p => rwa [ht] at h
  | named target =>
      rw [ht] at h
      obtain ⟨base, hbase, h⟩ := bind_eq_ok.mp h
      obtain ⟨name, hname, rfl⟩ := map_eq_ok.mp hbase
      exact bind_eq_ok.mpr ⟨_, map_eq_ok.mpr ⟨name, Registry.nameOf_mono hp hname, rfl⟩, h⟩

theorem properties_mono (hp : r.types <+: r'.types) {fields : List Field}
    {members : List (String × Value)} (h : properties r fields = .ok members) :
    properties r' fields = .ok members := by
  induction fields generalizing members with
  | nil => exact h
  | cons field rest ih =>
      obtain ⟨w, hw, h⟩ := bind_eq_ok.mp h
      obtain ⟨more, hmore, h⟩ := bind_eq_ok.mp h
      exact bind_eq_ok.mpr ⟨w, fieldSchema_mono hp hw, bind_eq_ok.mpr ⟨more, ih hmore, h⟩⟩

theorem typeSchema_mono (hp : r.types <+: r'.types) {t : DataType}
    (h : typeSchema r t = .ok v) : typeSchema r' t = .ok v := by
  obtain ⟨members, hmembers, h⟩ := bind_eq_ok.mp h
  exact bind_eq_ok.mpr ⟨members, properties_mono hp hmembers, h⟩

theorem requestBody_mono (hp : r.types <+: r'.types) {method : Method}
    {parameters : List OperationParameter} {body : Option Value}
    (h : requestBody r method parameters = .ok body) :
    requestBody r' method parameters = .ok body := by
  induction parameters generalizing body with
  | nil => exact h
  | cons p rest ih =>
      unfold requestBody at h ⊢
      split at h
      · next hbody => rwa [if_pos hbody]
      · next hbody =>
          rw [if_neg hbody]
          obtain ⟨t, ht, h⟩ := bind_eq_ok.mp h
          obtain ⟨later, hlater, h⟩ := bind_eq_ok.mp h
          exact bind_eq_ok.mpr ⟨t, Registry.dataType_mono hp ht,
            bind_eq_ok.mpr ⟨later, ih hlater, h⟩⟩

theorem operation_mono (hp : r.types <+: r'.types) {e e' : Endpoint} (he : e'.name = e.name)
    {o : Operation} (h : operation r e o = .ok v) : operation r' e' o = .ok v := by
  obtain ⟨body, hbody, h⟩ := bind_eq_ok.mp h
  obtain ⟨name, hname, h⟩ := bind_eq_ok.mp h
  rw [← he] at h
  exact bind_eq_ok.mpr ⟨body, requestBody_mono hp hbody,
    bind_eq_ok.mpr ⟨name, Registry.nameOf_mono hp hname, h⟩⟩

/-! ## What stands in a contract -/

variable {heading : Heading} {m m' : Model} {document document' : Value}

theorem Paths.Hold.exists_of_mem {ps : Paths} {os : List (Endpoint × Operation)}
    (h : ps.Hold r os) {q : String} {x : Method × Value} (hx : x ∈ ps.at q) :
    ∃ p ∈ os, path p.1 p.2 = q ∧ IsMethod r p x := by
  obtain ⟨hlength, hmethods⟩ := List.forall₂_iff_get.mp (h.methods q)
  obtain ⟨i, hi, rfl⟩ := List.mem_iff_getElem.mp hx
  have hmem := List.getElem_mem (hlength ▸ hi)
  obtain ⟨hos, hpath⟩ := List.mem_filter.mp hmem
  exact ⟨_, hos, of_decide_eq_true hpath, hmethods i (hlength ▸ hi) hi⟩

/-- Under a path and a keyword stands the operation of that path and keyword. -/
theorem at?_method_iff (h : render heading m = .ok document) {q key : String} :
    document.at? ["paths", q, key] = some v ↔ ∃ e ∈ m.endpoints, ∃ o ∈ e.operations,
      path e o = q ∧ o.method.keyword = key ∧ operation m.registry e o = .ok v := by
  constructor
  · intro hv
    obtain ⟨ps, members, hps, -, rfl⟩ := render_eq_ok h
    replace hv : ps.toValue.at? [q, key] = some v := by simpa using hv
    rw [Paths.at?_toValue_eq, Option.bind_eq_some_iff] at hv
    obtain ⟨w, hw, hv⟩ := hv
    cases hv
    obtain ⟨x, hx, hmember⟩ := List.mem_map.mp (Entries.mem_of_get? hw)
    cases hmember
    obtain ⟨p, hp, hpath, hmethod, hoperation⟩ := (hold_of_foldlM hps).1.exists_of_mem hx
    obtain ⟨he, ho⟩ := mem_operations.mp hp
    exact ⟨p.1, he, p.2, ho, hpath, congrArg Method.keyword hmethod.symm, hoperation⟩
  · rintro ⟨e, he, o, ho, rfl, rfl, hv⟩
    obtain ⟨w, hw, hat⟩ := at?_operation h he ho
    rw [hat [], ← Except.ok.inj (hv.symm.trans hw)]
    rfl

/-- Under the name of a component stands the schema of the type of that name. -/
theorem at?_component_iff (h : render heading m = .ok document)
    (hd : (m.registry.types.map (·.name)).Nodup) {name : String} :
    document.at? ["components", "schemas", name] = some v ↔
      ∃ t ∈ m.registry.types, t.name = name ∧ typeSchema m.registry t = .ok v := by
  constructor
  · intro hv
    obtain ⟨ps, members, -, hmembers, rfl⟩ := render_eq_ok h
    replace hv : (Value.map (Entries.ofList members)).at? [name] = some v := by simpa using hv
    have hget : Entries.get? name (Entries.ofList members) = some v := by
      simpa [Value.at?, Value.entries?] using hv
    exact mem_schemas hmembers (Entries.mem_of_mem_ofList (Entries.mem_of_get? hget))
  · rintro ⟨t, ht, rfl, hv⟩
    obtain ⟨w, hw, hat⟩ := at?_component h hd ht
    rw [hat [], ← Except.ok.inj (hv.symm.trans hw)]
    rfl

/-! ## Contracts that keep what they have -/

/-- A contract has every operation and every schema of another one. -/
structure Keeps (document document' : Value) : Prop where
  methods : ∀ path method v, document.at? ["paths", path, method] = some v →
    document'.at? ["paths", path, method] = some v
  schemas : ∀ name v, document.at? ["components", "schemas", name] = some v →
    document'.at? ["components", "schemas", name] = some v

theorem keeps_of_extends (hm : m.Extends m') (hd : (m.registry.types.map (·.name)).Nodup)
    (hd' : (m'.registry.types.map (·.name)).Nodup) (h : render heading m = .ok document)
    (h' : render heading m' = .ok document') : Keeps document document' := by
  constructor
  case methods =>
    intro q key v hv
    obtain ⟨e, he, o, ho, rfl, rfl, hoperation⟩ := (at?_method_iff h).mp hv
    obtain ⟨i, hi⟩ := List.mem_iff_getElem?.mp he
    obtain ⟨e', he', hprefix⟩ := hm.endpoints i e hi
    refine (at?_method_iff h').mpr ⟨e', List.mem_of_getElem? he', o,
      hprefix.operations.subset ho, ?_, rfl, operation_mono hm.types hprefix.name_eq hoperation⟩
    rw [path, path, hprefix.name_eq]
  case schemas =>
    intro name v hv
    obtain ⟨t, ht, rfl, hschema⟩ := (at?_component_iff h hd).mp hv
    exact (at?_component_iff h' hd').mpr
      ⟨t, hm.types.subset ht, rfl, typeSchema_mono hm.types hschema⟩

theorem nodup_names_of_build {ts : List TypeDeclaration} {es : List EndpointDeclaration}
    (h : Model.build ts es = .ok m) : (m.registry.types.map (·.name)).Nodup := by
  obtain ⟨L, -, hm⟩ := Model.build_eq_ok h
  exact hm.registry.nodup_names

/-- Appending is conservative. What could not be built fails in the same way, and what is built goes
on from the model and keeps the operations and the schemas of the contract. -/
theorem appends_keeps {ts : List TypeDeclaration} {es es' : List EndpointDeclaration}
    (h : Appends es es') :
    (∀ err, Model.build ts es = .error err → Model.build ts es' = .error err) ∧
      ∀ m m', Model.build ts es = .ok m → Model.build ts es' = .ok m' → m.Extends m' ∧
        ∀ heading document document', render heading m = .ok document →
          render heading m' = .ok document' → Keeps document document' := by
  refine ⟨fun _ herr => h.build_eq_error herr, fun m m' hbuild hbuild' => ?_⟩
  have hextends := h.extends hbuild hbuild'
  refine ⟨hextends, fun heading document document' hrender hrender' => ?_⟩
  exact keeps_of_extends hextends (nodup_names_of_build hbuild) (nodup_names_of_build hbuild')
    hrender hrender'

/-- Items are listed, in a type of its own, after the operations on orders. -/
def listedEndpoints : List EndpointDeclaration :=
  [⟨"items", none, [⟨"all", none, some .get, none,
    some (.single (.reference ⟨none, "Item", some .zeroOrMore⟩))⟩]⟩]

theorem appends_keeps_listed :
    ∃ m document, Model.build linkedTypes (linkedEndpoints ++ listedEndpoints) = .ok m ∧
      linkedModel.Extends m ∧ render ⟨"Shop", none, "1.0"⟩ m = .ok document ∧
        ∃ linked, render ⟨"Shop", none, "1.0"⟩ linkedModel = .ok linked ∧
          Keeps linked document := by
  obtain ⟨linked, hlinked⟩ := render_linked
  obtain ⟨m, hm⟩ := exists_of_isOk
    (x := Model.build linkedTypes (linkedEndpoints ++ listedEndpoints)) (by decide +kernel)
  obtain ⟨hextends, hkeeps⟩ :=
    (appends_keeps (.endpoints linkedEndpoints listedEndpoints)).2 linkedModel m build_linked hm
  obtain ⟨document, hdocument⟩ := exists_render hm (by decide) ⟨"Shop", none, "1.0"⟩
  exact ⟨m, document, hm, hextends, hdocument, linked, hlinked, hkeeps _ _ _ hlinked hdocument⟩

end Contract

end ServiceContract
