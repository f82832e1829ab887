import Mathlib.Logic.Relation
import ServiceContract.Proofs.Contract.Paths
import ServiceContract.Proofs.Interface.Plan
import ServiceContract.Proofs.Schema.Document

/-!
# References to schemas

A contract has the schema of every registered type under the type's name, and refers to types by
those names only. As the names are distinct, a reference tells the handle that the model has in its
place.
-/

namespace ServiceContract.Contract

/-! ## Schemas in a document -/

/-- A schema stands in another: as a property, as the items of an array, or as one of several that
all hold. -/
inductive Inside (v : Value) : Value → Prop where
  | property {name : String} {w : Value} : (name, w) ∈ v.membersAt ["properties"] → Inside v w
  | items {w : Value} : v.at? ["items"] = some w → Inside v w
  | allOf {w : Value} : w ∈ v.itemsAt ["allOf"] → Inside v w

/-- A schema is reached from another at any depth. -/
abbrev Reaches : Value → Value → Prop := Relation.ReflTransGen Inside

/-- A schema is that of a component, of the body of a request, or of an answer. -/
inductive IsRoot (document : Value) : Value → Prop where
  | component {name : String} {v : Value} :
      (name, v) ∈ document.membersAt ["components", "schemas"] → IsRoot document v
  | body {path method type : String} {item operation media v : Value} :
      (path, item) ∈ document.membersAt ["paths"] → (method, operation) ∈ item.members →
      (type, media) ∈ operation.membersAt ["requestBody", "content"] →
      media.at? ["schema"] = some v → IsRoot document v
  | answer {path method status type : String} {item operation answer media v : Value} :
      (path, item) ∈ document.membersAt ["paths"] → (method, operation) ∈ item.members →
      (status, answer) ∈ operation.membersAt ["responses"] →
      (type, media) ∈ answer.membersAt ["content"] →
      media.at? ["schema"] = some v → IsRoot document v

/-- What a reference to the schema of a name says. -/
def reference (name : String) : Value := .text ("#/components/schemas/" ++ name)

theorem schemaRef_eq (name : String) : schemaRef name = .map [("$ref", reference name)] := rfl

theorem reference_injective {a b : String} (h : reference a = reference b) : a = b := by
  simpa [reference] using h

/-- Every reference that is reached is to one of these names. -/
def Resolved (names : List String) (v : Value) : Prop :=
  ∀ w, Reaches v w → ∀ r, w.at? ["$ref"] = some r → ∃ n ∈ names, r = reference n

variable {names : List String} {v : Value}

/-- The references reached from a schema are its own and those reached from what stands in it. -/
theorem resolved_of_inside (hown : ∀ r, v.at? ["$ref"] = some r → ∃ n ∈ names, r = reference n)
    (hinside : ∀ w, Inside v w → Resolved names w) : Resolved names v := by
  intro w hw r hr
  rcases hw.cases_head with rfl | ⟨u, hu, huw⟩
  · exact hown r hr
  · exact hinside u hu w huw r hr

/-! ## Schemas of fields -/

theorem resolved_schemaRef {n : String} (hn : n ∈ names) : Resolved names (schemaRef n) := by
  refine resolved_of_inside ?_ ?_
  · intro r hr
    rw [schemaRef_eq] at hr
    exact ⟨n, hn, (Option.some.inj hr).symm⟩
  · intro w hw
    rw [schemaRef_eq] at hw
    cases hw with
    | property h => simp [Value.membersAt] at h
    | items h => simp at h
    | allOf h => simp [Value.itemsAt] at h

theorem resolved_primitiveSchema (p : Primitive) : Resolved names (primitiveSchema p) := by
  refine resolved_of_inside ?_ ?_
  · intro r hr
    cases p <;> simp [primitiveSchema] at hr
  · intro w hw
    cases hw with
    | property h => cases p <;> simp [primitiveSchema, Value.membersAt] at h
    | items h => cases p <;> simp [primitiveSchema] at h
    | allOf h => cases p <;> simp [primitiveSchema, Value.itemsAt] at h

theorem resolved_array (h : Resolved names v) :
    Resolved names (.map [("type", .text "array"), ("items", v)]) := by
  refine resolved_of_inside (by simp) ?_
  intro w hw
  cases hw with
  | property hp => simp [Value.membersAt] at hp
  | items hi =>
      obtain rfl : v = w := by simpa using hi
      exact h
  | allOf ha => simp [Value.itemsAt] at ha

theorem resolved_allOf (h : Resolved names v) :
    Resolved names (.map [("allOf", .list [v]), ("nullable", .bool true)]) := by
  refine resolved_of_inside (by simp) ?_
  intro w hw
  cases hw with
  | property hp => simp [Value.membersAt] at hp
  | items hi => simp at hi
  | allOf ha =>
      obtain rfl : w = v := by simpa [Value.itemsAt] using ha
      exact h

/-- A member besides those that schemas stand in changes nothing. -/
theorem at?_put_nullable {entries : Entries} {key : String} (hk : key ≠ "nullable") :
    (Value.map (entries.put "nullable" (.bool true))).at? [key] =
      (Value.map entries).at? [key] := by
  simp [Value.at?, Value.entries?, Entries.get?_put, hk]

theorem resolved_nullable (h : Resolved names v) : Resolved names (nullable v) := by
  cases v with
  | map entries =>
      unfold nullable
      dsimp only
      split
      · exact resolved_allOf h
      · refine resolved_of_inside ?_ ?_
        · intro r hr
          rw [at?_put_nullable (by decide)] at hr
          exact h _ .refl r hr
        · intro w hw u hu
          refine h u (.head ?_ hu)
          cases hw with
          | property hp =>
              rw [Value.membersAt, at?_put_nullable (by decide)] at hp
              exact .property hp
          | items hi =>
              rw [at?_put_nullable (by decide)] at hi
              exact .items hi
          | allOf ha =>
              rw [Value.itemsAt, at?_put_nullable (by decide)] at ha
              exact .allOf ha
  | _ => exact h

/-- The schema of a field that holds a base as often as the field says. -/
def occurring (field : Field) (base : Value) : Value :=
  let schema := if field.isList then .map [("type", .text "array"), ("items", base)] else base
  if field.isNullable then nullable schema else schema

theorem resolved_occurring (field : Field) (h : Resolved names v) :
    Resolved names (occurring field v) := by
  unfold occurring
  dsimp only
  split <;> split
  · exact resolved_nullable (resolved_array h)
  · exact resolved_nullable h
  · exact resolved_array h
  · exact h

/-- The schema of a field is that of its primitive, or refers to the type of its handle. -/
theorem fieldSchema_eq_ok {r : Registry} {field : Field} (h : fieldSchema r field = .ok v) :
    (∃ p, field.type = .primitive p ∧ v = occurring field (primitiveSchema p)) ∨
      ∃ k t, field.type = .named k ∧ r.get? k = some t ∧
        v = occurring field (schemaRef t.name) := by
  unfold fieldSchema at h
  cases htype : field.type with
  | primitive p =>
      rw [htype] at h
      cases h
      exact .inl ⟨p, rfl, rfl⟩
  | named k =>
      rw [htype] at h
      obtain ⟨base, hbase, h⟩ := bind_eq_ok.mp h
      obtain ⟨name, hname, rfl⟩ := map_eq_ok.mp hbase
      cases h
      obtain ⟨t, ht, rfl⟩ := map_eq_ok.mp hname
      exact .inr ⟨k, t, rfl, Registry.dataType_eq_ok.mp ht, rfl⟩

/-! ## Schemas of types -/

/-- What the schema of a field refers to: itself, as its items, or as what null is added to. -/
def fieldReference? (v : Value) : Option Value :=
  (v.at? ["$ref"]).or ((v.at? ["items", "$ref"]).or
    ((v.itemsAt ["allOf"]).head?.bind (·.at? ["$ref"])))

theorem fieldReference?_primitive (field : Field) (p : Primitive) :
    fieldReference? (occurring field (primitiveSchema p)) = none := by
  unfold occurring
  cases field.isList <;> cases field.isNullable <;> cases p <;> rfl

theorem fieldReference?_schemaRef (field : Field) (n : String) :
    fieldReference? (occurring field (schemaRef n)) = some (reference n) := by
  unfold occurring
  cases field.isList <;> cases field.isNullable <;> rfl

/-- The schemas of fields are each that of a field, under its name. -/
theorem mem_properties {r : Registry} {fields : List Field} {members : List (String × Value)}
    (h : properties r fields = .ok members) {name : String} (hv : (name, v) ∈ members) :
    ∃ field ∈ fields, fieldSchema r field = .ok v := by
  induction fields generalizing members with
  | nil =>
      cases h
      cases hv
  | cons field rest ih =>
      obtain ⟨w, hw, h⟩ := bind_eq_ok.mp h
      obtain ⟨more, hmore, h⟩ := bind_eq_ok.mp h
      cases h
      rcases List.mem_cons.mp hv with heq | hv
      · cases heq
        exact ⟨field, List.mem_cons_self, hw⟩
      · obtain ⟨other, hother, hv⟩ := ih hmore hv
        exact ⟨other, List.mem_cons_of_mem _ hother, hv⟩

theorem properties_names {r : Registry} {fields : List Field} {members : List (String × Value)}
    (h : properties r fields = .ok members) :
    members.map Prod.fst = fields.map (·.name) := by
  induction fields generalizing members with
  | nil =>
      cases h
      rfl
  | cons field rest ih =>
      obtain ⟨w, -, h⟩ := bind_eq_ok.mp h
      obtain ⟨more, hmore, h⟩ := bind_eq_ok.mp h
      cases h
      rw [List.map_cons, List.map_cons, ih hmore]

/-- Among the properties of a type, a field is found that no later one has the name of. -/
theorem get?_properties {r : Registry} {before after : List Field} {field : Field}
    {members : List (String × Value)}
    (h : properties r (before ++ field :: after) = .ok members)
    (hlast : ∀ f ∈ after, f.name ≠ field.name) :
    ∃ v, fieldSchema r field = .ok v ∧ (Entries.ofList members).get? field.name = some v := by
  -- the fields before are only put where they are, whichever they are
  suffices hsplit : ∃ ms v ns, members = ms ++ (field.name, v) :: ns ∧
      fieldSchema r field = .ok v ∧ ∀ m ∈ ns, m.1 ≠ field.name by
    obtain ⟨ms, v, ns, rfl, hv, hns⟩ := hsplit
    exact ⟨v, hv, Entries.get?_ofList_of_last hns⟩
  induction before generalizing members with
  | nil =>
      obtain ⟨v, hv, h⟩ := bind_eq_ok.mp h
      obtain ⟨ns, hns, h⟩ := bind_eq_ok.mp h
      cases h
      refine ⟨[], v, ns, rfl, hv, ?_⟩
      rw [← List.forall_mem_map (P := (· ≠ field.name)), properties_names hns, List.forall_mem_map]
      exact hlast
  | cons first rest ih =>
      obtain ⟨w, -, h⟩ := bind_eq_ok.mp h
      obtain ⟨more, hmore, h⟩ := bind_eq_ok.mp h
      cases h
      obtain ⟨ms, v, ns, rfl, hv, hns⟩ := ih hmore
      exact ⟨(first.name, w) :: ms, v, ns, rfl, hv, hns⟩

variable {r : Registry}

theorem resolved_fieldSchema {field : Field} (h : fieldSchema r field = .ok v) :
    Resolved (r.types.map (·.name)) v := by
  rcases fieldSchema_eq_ok h with ⟨p, -, rfl⟩ | ⟨k, t, -, ht, rfl⟩
  · exact resolved_occurring field (resolved_primitiveSchema p)
  · have hname : t.name ∈ r.types.map (·.name) :=
      List.mem_map_of_mem (List.mem_of_getElem? ht)
    exact resolved_occurring field (resolved_schemaRef hname)

/-- The schema of a type has the schemas of its fields as its properties. -/
theorem typeSchema_eq_ok {t : DataType} (h : typeSchema r t = .ok v) :
    ∃ members, properties r t.fields = .ok members ∧
      v.at? ["properties"] = some (.map (Entries.ofList members)) ∧
      v.at? ["$ref"] = none ∧ v.at? ["items"] = none ∧ v.at? ["allOf"] = none := by
  obtain ⟨members, hmembers, h⟩ := bind_eq_ok.mp h
  cases h
  refine ⟨members, hmembers, ?_⟩
  generalize (if ((t.fields.filter fun f => !f.isNullable).map fun f =>
    Value.text f.name).isEmpty then none else _ : Option Value) = required
  cases required <;> simp

theorem resolved_typeSchema {t : DataType} (h : typeSchema r t = .ok v) :
    Resolved (r.types.map (·.name)) v := by
  obtain ⟨members, hmembers, hproperties, href, hitems, hallOf⟩ := typeSchema_eq_ok h
  refine resolved_of_inside (by simp [href]) ?_
  intro w hw
  cases hw with
  | property hp =>
      rw [Value.membersAt, hproperties] at hp
      obtain ⟨field, -, hfield⟩ := mem_properties hmembers (Entries.mem_of_mem_ofList hp)
      exact resolved_fieldSchema hfield
  | items hi => simp [hitems] at hi
  | allOf ha => simp [Value.itemsAt, hallOf] at ha

/-! ## All types -/

theorem mem_schemas {types : List DataType} {members : List (String × Value)}
    (h : schemas r types = .ok members) {name : String} (hv : (name, v) ∈ members) :
    ∃ t ∈ types, t.name = name ∧ typeSchema r t = .ok v := by
  induction types generalizing members with
  | nil =>
      cases h
      cases hv
  | cons t rest ih =>
      obtain ⟨w, hw, h⟩ := bind_eq_ok.mp h
      obtain ⟨more, hmore, h⟩ := bind_eq_ok.mp h
      cases h
      rcases List.mem_cons.mp hv with heq | hv
      · cases heq
        exact ⟨t, List.mem_cons_self, rfl, hw⟩
      · obtain ⟨other, hother, hv⟩ := ih hmore hv
        exact ⟨other, List.mem_cons_of_mem _ hother, hv⟩

theorem exists_mem_schemas {types : List DataType} {members : List (String × Value)}
    (h : schemas r types = .ok members) {t : DataType} (ht : t ∈ types) :
    ∃ v, typeSchema r t = .ok v ∧ (t.name, v) ∈ members := by
  induction types generalizing members with
  | nil => cases ht
  | cons first rest ih =>
      obtain ⟨w, hw, h⟩ := bind_eq_ok.mp h
      obtain ⟨more, hmore, h⟩ := bind_eq_ok.mp h
      cases h
      rcases List.mem_cons.mp ht with rfl | ht
      · exact ⟨w, hw, List.mem_cons_self⟩
      · obtain ⟨v, hv, hmem⟩ := ih hmore ht
        exact ⟨v, hv, List.mem_cons_of_mem _ hmem⟩

/-- A field of a type is found among the properties of the type's schema, and refers to the type of
its handle. -/
theorem reference_of_typeSchema {t : DataType} (h : typeSchema r t = .ok v)
    {before after : List Field} {field : Field} (hfields : t.fields = before ++ field :: after)
    (hlast : ∀ f ∈ after, f.name ≠ field.name) :
    ∃ w, v.at? ["properties", field.name] = some w ∧
      ((∃ p, field.type = .primitive p ∧ fieldReference? w = none) ∨
        ∃ k u, field.type = .named k ∧ r.get? k = some u ∧
          fieldReference? w = some (reference u.name)) := by
  obtain ⟨members, hmembers, hproperties, -⟩ := typeSchema_eq_ok h
  rw [hfields] at hmembers
  obtain ⟨w, hw, hget⟩ := get?_properties hmembers hlast
  have hat : v.at? ["properties", field.name] = some w := by
    rw [← List.singleton_append, Value.at?_append, hproperties]
    simp [Value.at?, Value.entries?, hget]
  refine ⟨w, hat, ?_⟩
  rcases fieldSchema_eq_ok hw with ⟨p, hp, rfl⟩ | ⟨k, u, hk, hu, rfl⟩
  · exact .inl ⟨p, hp, fieldReference?_primitive field p⟩
  · exact .inr ⟨k, u, hk, hu, fieldReference?_schemaRef field u.name⟩

end ServiceContract.Contract
