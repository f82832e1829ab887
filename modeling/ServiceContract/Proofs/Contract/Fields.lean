import ServiceContract.Proofs.Contract.References
import ServiceContract.Proofs.Interface.Wrapping
import ServiceContract.Proofs.Value.Unique

/-!
# Fields of components

A component has the schemas of the fields of its type under their names. Of fields with one name it
has only the last, so that a field is lost just if a structure gives two of its children one name.
-/

namespace ServiceContract

namespace Contract

variable {r : Registry} {t : DataType} {schema : Value}

/-! ## Properties in order -/

/-- A schema has the fields of a type: one property for every field, in order, and the names of the
fields that have to be there, each once. -/
structure ShowsFields (r : Registry) (t : DataType) (schema : Value) : Prop where
  properties : ∃ members, schema.at? ["properties"] = some (.map members) ∧
    List.Forall₂ (fun field member => member.1 = field.name ∧ fieldSchema r field = .ok member.2)
      t.fields members
  required : schema.at? ["required"] =
    if t.requiredNames = [] then none else some (.list (t.requiredNames.map .text))
  once : t.requiredNames.Nodup

theorem forall₂_properties {fields : List Field} {members : List (String × Value)}
    (h : properties r fields = .ok members) :
    List.Forall₂ (fun field member => member.1 = field.name ∧ fieldSchema r field = .ok member.2)
      fields members := by
  induction fields generalizing members with
  | nil =>
      cases h
      exact .nil
  | cons field rest ih =>
      obtain ⟨v, hv, h⟩ := bind_eq_ok.mp h
      obtain ⟨more, hmore, h⟩ := bind_eq_ok.mp h
      cases h
      exact .cons ⟨rfl, hv⟩ (ih hmore)

theorem required_of_typeSchema (h : typeSchema r t = .ok schema) : schema.at? ["required"] =
    if t.requiredNames = [] then none else some (.list (t.requiredNames.map .text)) := by
  obtain ⟨members, -, h⟩ := bind_eq_ok.mp h
  cases h
  have hnames : (t.fields.filter fun f => !f.isNullable).map (fun f => Value.text f.name) =
      t.requiredNames.map .text := by
    simp [DataType.requiredNames]
  rw [hnames]
  by_cases hempty : t.requiredNames = []
  · simp [hempty]
  · simp [hempty]

/-- The schema of a type has all its fields exactly when they have distinct names. -/
theorem showsFields_iff (h : typeSchema r t = .ok schema) :
    ShowsFields r t schema ↔ (t.fields.map (·.name)).Nodup := by
  obtain ⟨members, hmembers, hproperties, -⟩ := typeSchema_eq_ok h
  have hnames := properties_names hmembers
  constructor
  · rintro ⟨⟨shown, hshown, hfields⟩, -, -⟩
    rw [hproperties] at hshown
    obtain rfl : Entries.ofList members = shown := by simpa using hshown
    have hkeys : List.Forall₂ (· = ·) (t.fields.map (·.name))
        ((Entries.ofList members).map Prod.fst) := by
      rw [List.forall₂_map_left_iff, List.forall₂_map_right_iff]
      exact hfields.imp fun field member hmember => hmember.1.symm
    rw [List.forall₂_eq_eq_eq] at hkeys
    rw [hkeys]
    exact Entries.nodup_keys_ofList members
  · intro hd
    refine ⟨⟨members, ?_, forall₂_properties hmembers⟩, required_of_typeSchema h, ?_⟩
    · rw [hproperties, Entries.ofList_of_nodup (hnames ▸ hd)]
    · exact hd.sublist (List.filter_sublist.map _)

end Contract

/-! ## Types and structures -/

variable {ts : List TypeDeclaration} {es : List EndpointDeclaration} {m : Model}

/-- What is no structure has one field at most. -/
theorem Registration.nodup_of_not_isStructure {e : Registration} (he : ¬ e.origin.IsStructure) :
    (e.outlines.map (·.name)).Nodup := by
  obtain ⟨name, origin⟩ := e
  cases origin with
  | declared content => exact (he trivial).elim
  | shape s => exact (he trivial).elim
  | substitute => exact List.nodup_nil
  | wrapper fieldName base c => exact List.nodup_singleton fieldName

/-- The fields of every type have distinct names exactly when every structure gives its children
distinct names. -/
theorem Model.distinctFields_iff (h : Model.build ts es = .ok m) :
    (∀ t ∈ m.registry.types, (t.fields.map (·.name)).Nodup) ↔
      ∀ e ∈ expansion ts es, e.origin.IsStructure → (e.outlines.map (·.name)).Nodup := by
  obtain ⟨L, hL, hm⟩ := Model.build_eq_ok h
  have hfields : ∀ e : Registration,
      ((e.dataType L.names .nothing).fields.map (·.name)) = e.outlines.map (·.name) := by
    intro e
    simp [Registration.dataType, Registration.filled, Pending.nothing, Outline.field]
  rw [hm.registry.types_eq, List.forall_mem_map]
  simp only [hfields]
  constructor
  · intro hall e he hs
    have hentry := Ledger.record?_of_structure hL (register_mem_plan.mpr he) hs
    exact hall e (Ledger.record?_mem hentry)
  · intro hall e he
    by_cases hs : e.origin.IsStructure
    · have hentry := Ledger.record?_of_mem hm.registry.distinct he
      exact hall e (mem_expansion_of_record? hL hentry) hs
    · exact e.nodup_of_not_isStructure hs

namespace Contract

variable {heading : Heading} {document : Value}

/-- The components of a contract have all fields of their types exactly when every structure that
is declared, nested or written inline gives its children distinct names. -/
theorem render_showsFields_iff (hbuild : Model.build ts es = .ok m)
    (h : render heading m = .ok document) :
    (∀ t ∈ m.registry.types, ∃ schema,
      document.at? ["components", "schemas", t.name] = some schema ∧
        ShowsFields m.registry t schema) ↔
      ∀ e ∈ expansion ts es, e.origin.IsStructure → (e.outlines.map (·.name)).Nodup := by
  obtain ⟨L, -, hm⟩ := Model.build_eq_ok hbuild
  have hd : (m.registry.types.map (·.name)).Nodup := by
    rw [hm.registry.names_eq]
    exact hm.registry.distinct
  rw [← Model.distinctFields_iff hbuild]
  refine forall₂_congr fun t ht => ?_
  obtain ⟨schema, hschema, hat⟩ := at?_component h hd ht
  rw [← showsFields_iff hschema, hat []]
  simp

theorem render_showsFields_iff_linked :
    ∃ document, render ⟨"Shop", none, "1.0"⟩ linkedModel = .ok document ∧
      ((∀ t ∈ linkedModel.registry.types, ∃ schema,
        document.at? ["components", "schemas", t.name] = some schema ∧
          ShowsFields linkedModel.registry t schema) ↔
        ∀ e ∈ expansion linkedTypes linkedEndpoints, e.origin.IsStructure →
          (e.outlines.map (·.name)).Nodup) := by
  obtain ⟨document, h⟩ := render_linked
  exact ⟨document, h, render_showsFields_iff build_linked h⟩

/-- Orders with two fields of one name. -/
def twiceNamedTypes : List TypeDeclaration :=
  [⟨"Order", .atoms ⟨none, [⟨some "id", .int, none⟩, ⟨some "id", .string, none⟩], none⟩⟩]

def twiceNamedModel : Model where
  registry :=
    { types := [⟨"Order", [⟨"id", .primitive .int, false, false⟩,
        ⟨"id", .primitive .string, false, false⟩]⟩]
      index := [("Order", ⟨0⟩)] }
  endpoints := []

/-- The first field is lost, and the name of both is required twice. -/
theorem render_losesField :
    Model.build twiceNamedTypes [] = .ok twiceNamedModel ∧
      ∃ document, render ⟨"Shop", none, "1.0"⟩ twiceNamedModel = .ok document ∧
        document.at? ["components", "schemas", "Order"] = some (.map [("type", .text "object"),
          ("properties", .map [("id", primitiveSchema .string)]),
          ("required", .list [.text "id", .text "id"])]) ∧
        ¬ ∀ t ∈ twiceNamedModel.registry.types, ∃ schema,
          document.at? ["components", "schemas", t.name] = some schema ∧
            ShowsFields twiceNamedModel.registry t schema := by
  have hat : (render ⟨"Shop", none, "1.0"⟩ twiceNamedModel).toOption.bind
      (·.at? ["components", "schemas", "Order"]) = some (.map [("type", .text "object"),
          ("properties", .map [("id", primitiveSchema .string)]),
          ("required", .list [.text "id", .text "id"])]) := by
    decide +kernel
  obtain ⟨document, h, hschema⟩ := exists_of_toOption_bind hat
  refine ⟨by decide +kernel, document, h, hschema, fun hall => ?_⟩
  obtain ⟨_, -, hshows⟩ := hall _ List.mem_cons_self
  exact absurd hshows.once (by decide)

end Contract

end ServiceContract
