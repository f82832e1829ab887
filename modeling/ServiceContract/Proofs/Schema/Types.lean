import ServiceContract.Document.Contract
import ServiceContract.Proofs.Outcome
import ServiceContract.Proofs.Schema.Demands
import ServiceContract.Proofs.Value.Entries

/-!
# Schemas of types

The schema of a field is accepted whatever the field is. That of a type is accepted just if the
fields that have to be there have distinct names.
-/

namespace ServiceContract

/-- The names of the fields that have to be there. -/
def DataType.requiredNames (t : DataType) : List String :=
  (t.fields.filter fun f => !f.isNullable).map (·.name)

namespace Contract

/-- Whether a value is accepted as the schema of a type. -/
abbrev IsTypeSchema (v : Value) : Prop := (Schema.defined .typeSchema).Accepts v

theorem isTypeSchema_map_iff {es : Entries} :
    IsTypeSchema (.map es) ↔ ("items" ∈ es.keys → "type" ∈ es.keys) ∧
      ∀ e ∈ es, ∀ member, typeMembers.lookup e.1 = some member → member.Accepts e.2 := by
  simp [IsTypeSchema, accepts_map_iff, Schema.keywords, Definition.keywords, Keyword.memberSchema?,
    JsonType.holds]

theorem isTypeSchema_schemaRef (name : String) : IsTypeSchema (schemaRef name) := by
  simp [schemaRef, isTypeSchema_map_iff, typeMembers, Entries.keys, accepts_text_iff,
    Schema.keywords, JsonType.holds, Pattern.holds]

theorem isTypeSchema_primitiveSchema (p : Primitive) : IsTypeSchema (primitiveSchema p) := by
  cases p <;> decide

theorem isTypeSchema_array {v : Value} (h : IsTypeSchema v) :
    IsTypeSchema (.map [("type", .text "array"), ("items", v)]) := by
  simp [isTypeSchema_map_iff, typeMembers, List.lookup_cons, Entries.keys, accepts_text_iff,
    Schema.keywords, h]

theorem isTypeSchema_allOf {v : Value} (h : IsTypeSchema v) :
    IsTypeSchema (.map [("allOf", .list [v]), ("nullable", .bool true)]) := by
  simp [isTypeSchema_map_iff, typeMembers, List.lookup_cons, Entries.keys, accepts_list_iff,
    accepts_bool_iff, Schema.keywords, JsonType.holds, Keyword.itemSchema?, Schema.boolean, h]

theorem isTypeSchema_nullable {v : Value} (h : IsTypeSchema v) : IsTypeSchema (nullable v) := by
  cases v with
  | map entries =>
      unfold nullable
      dsimp only
      split
      · exact isTypeSchema_allOf h
      · obtain ⟨hitems, hmembers⟩ := isTypeSchema_map_iff.mp h
        refine isTypeSchema_map_iff.mpr ⟨?_, ?_⟩
        · simpa [Entries.mem_keys_put] using hitems
        · intro e he
          rcases Entries.mem_of_mem_put he with rfl | he
          · simp [typeMembers, List.lookup_cons, accepts_bool_iff, Schema.boolean, Schema.keywords,
              JsonType.holds]
          · exact hmembers e he
  | _ => exact h

theorem isTypeSchema_fieldSchema {r : Registry} {field : Field} {v : Value}
    (h : fieldSchema r field = .ok v) : IsTypeSchema v := by
  have hschema : ∀ base, IsTypeSchema base → IsTypeSchema
      (if field.isList then .map [("type", .text "array"), ("items", base)] else base) := by
    intro base hbase
    split
    · exact isTypeSchema_array hbase
    · exact hbase
  have hfield : ∀ schema, IsTypeSchema schema →
      IsTypeSchema (if field.isNullable then nullable schema else schema) := by
    intro schema hschema
    split
    · exact isTypeSchema_nullable hschema
    · exact hschema
  unfold fieldSchema at h
  cases htype : field.type with
  | primitive p =>
      rw [htype] at h
      cases h
      exact hfield _ (hschema _ (isTypeSchema_primitiveSchema p))
  | named handle =>
      rw [htype] at h
      obtain ⟨base, hbase, h⟩ := bind_eq_ok.mp h
      obtain ⟨name, -, rfl⟩ := map_eq_ok.mp hbase
      cases h
      exact hfield _ (hschema _ (isTypeSchema_schemaRef name))

theorem properties_eq_ok {r : Registry} {fields : List Field} {members : List (String × Value)}
    (h : properties r fields = .ok members) : ∀ m ∈ members, IsTypeSchema m.2 := by
  induction fields generalizing members with
  | nil =>
      cases h
      simp
  | cons field rest ih =>
      obtain ⟨v, hv, h⟩ := bind_eq_ok.mp h
      obtain ⟨more, hmore, h⟩ := bind_eq_ok.mp h
      cases h
      exact List.forall_mem_cons.mpr ⟨isTypeSchema_fieldSchema hv, ih hmore⟩

theorem isTypeSchema_typeSchema_iff {r : Registry} {t : DataType} {v : Value}
    (h : typeSchema r t = .ok v) : IsTypeSchema v ↔ t.requiredNames.Nodup := by
  obtain ⟨members, hmembers, h⟩ := bind_eq_ok.mp h
  cases h
  have htype : (Schema.demands [.oneOf ["object", "array", "string", "integer", "number",
      "boolean"]]).Accepts (.text "object") := by decide
  have hproperties : (Schema.demands [.type .object, .additional (.defined .typeSchema)]).Accepts
      (.map (Entries.ofList members)) := by
    rw [accepts_additional_iff]
    exact fun e he => properties_eq_ok hmembers e (Entries.mem_of_mem_ofList he)
  have hnames : (t.fields.filter fun f => !f.isNullable).map (fun f => Value.text f.name) =
      t.requiredNames.map .text := by
    simp [DataType.requiredNames]
  rw [IsTypeSchema, accepts_record_iff, hnames]
  by_cases hempty : t.requiredNames = []
  · simp [Schema.keywords, Definition.keywords, Keyword.memberSchema?, typeMembers,
      List.lookup_cons, htype, hproperties, hempty]
  · simp [Schema.keywords, Definition.keywords, Keyword.memberSchema?, typeMembers,
      List.lookup_cons, htype, hproperties, hempty, accepts_distinctStrings_iff]

/-! ## All types -/

/-- Whether a name is made of letters, digits, dots, underscores and hyphens. -/
def IsComponentName (name : String) : Prop :=
  ∀ c ∈ name.toList, c.isAlphanum ∨ c = '.' ∨ c = '_' ∨ c = '-'

theorem holds_nameCharacters_iff {name : String} (h : name ≠ "") :
    Pattern.holds { beginning := "", rest := some .nameCharacter } name ↔ IsComponentName name := by
  have hempty : name.toList.isEmpty = false := by simpa using h
  simp [Pattern.holds, hempty, CharacterClass.contains, IsComponentName]

theorem schemas_eq_ok {r : Registry} {types : List DataType} {members : List (String × Value)}
    (h : schemas r types = .ok members) : members.map Prod.fst = types.map (·.name) ∧
      ((∀ m ∈ members, IsTypeSchema m.2) ↔ ∀ t ∈ types, t.requiredNames.Nodup) := by
  induction types generalizing members with
  | nil =>
      cases h
      simp
  | cons t rest ih =>
      obtain ⟨v, hv, h⟩ := bind_eq_ok.mp h
      obtain ⟨more, hmore, h⟩ := bind_eq_ok.mp h
      cases h
      obtain ⟨hnames, hschemas⟩ := ih hmore
      refine ⟨by rw [List.map_cons, List.map_cons, hnames], ?_⟩
      rw [List.forall_mem_cons, List.forall_mem_cons, hschemas, isTypeSchema_typeSchema_iff hv]

/-- The types of a registry are accepted just if they are under names of components, and the fields
of each that have to be there have distinct names. -/
theorem accepts_components_iff {r : Registry} {types : List DataType}
    {members : List (String × Value)} (h : schemas r types = .ok members)
    (hdistinct : (types.map (·.name)).Nodup) (hpresent : ∀ t ∈ types, t.name ≠ "") :
    componentsSchema.Accepts (.map [("schemas", .map (Entries.ofList members))]) ↔
      (∀ t ∈ types, IsComponentName t.name) ∧ ∀ t ∈ types, t.requiredNames.Nodup := by
  obtain ⟨hnames, hschemas⟩ := schemas_eq_ok h
  have hrule : (∀ t ∈ types,
      (KeyRule.pattern { beginning := "", rest := some .nameCharacter }).violations t.name = []) ↔
        ∀ t ∈ types, IsComponentName t.name := by
    refine forall₂_congr fun t ht => ?_
    rw [KeyRule.violations, violationUnless_eq_nil, holds_nameCharacters_iff (hpresent t ht)]
  rw [Entries.ofList_of_nodup (hnames ▸ hdistinct), ← hschemas, ← hrule]
  simp [componentsSchema, accepts_map_iff, Schema.keywords, JsonType.holds, Keyword.memberSchema?,
    Keyword.knows, Entries.keys, hnames]

end Contract

end ServiceContract
