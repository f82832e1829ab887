import ServiceContract.Proofs.Contract.References
import ServiceContract.Proofs.Value.Words

/-!
# Contracts hold no numbers

A contract is made of texts and truth values, and its schemas do not nest: wherever one type holds
another, it refers to it.
-/

namespace ServiceContract.Contract

open Value

variable {r : Registry} {v document : Value} {entries : Entries} {key : String} {d : Nat}

theorem isWordy_put (h : ∀ e ∈ entries, e.2.IsWordy d) (hv : v.IsWordy d) :
    ∀ e ∈ entries.put key v, e.2.IsWordy d := by
  intro e he
  rcases Entries.mem_of_mem_put he with rfl | he
  · exact hv
  · exact h e he

theorem isWordy_members (h : (Value.map entries).IsWordy (d + 1)) :
    ∀ e ∈ entries, e.2.IsWordy d := by
  cases h with
  | map h => exact h

/-! ## Schemas -/

theorem isWordy_schemaRef (name : String) : (schemaRef name).IsWordy 1 :=
  .map (by simp [IsWordy.text])

theorem isWordy_jsonContent (name : String) : (jsonContent name).IsWordy 3 :=
  .map (by simpa using .map (by simpa using isWordy_schemaRef name))

theorem isWordy_primitiveSchema (p : Primitive) : (primitiveSchema p).IsWordy 1 := by
  cases p <;> exact .map (by simp [IsWordy.text])

theorem isWordy_nullable (h : v.IsWordy (d + 1)) : (nullable v).IsWordy (d + 3) := by
  cases v with
  | map entries =>
      unfold nullable
      dsimp only
      split
      · exact .map (by simpa [IsWordy.bool] using .list (by simpa using h))
      · exact (IsWordy.map (isWordy_put (isWordy_members h) (.bool true))).mono (by omega)
  | _ => exact h.mono (by omega)

theorem isWordy_occurring (field : Field) (h : v.IsWordy 1) : (occurring field v).IsWordy 4 := by
  have harray : (Value.map [("type", .text "array"), ("items", v)]).IsWordy 2 :=
    .map (by simpa [IsWordy.text] using h)
  unfold occurring
  dsimp only
  split <;> split
  · exact isWordy_nullable harray
  · exact (isWordy_nullable h).mono (by omega)
  · exact harray.mono (by omega)
  · exact h.mono (by omega)

theorem isWordy_fieldSchema {field : Field} (h : fieldSchema r field = .ok v) : v.IsWordy 4 := by
  rcases fieldSchema_eq_ok h with ⟨p, -, rfl⟩ | ⟨k, t, -, -, rfl⟩
  · exact isWordy_occurring field (isWordy_primitiveSchema p)
  · exact isWordy_occurring field (isWordy_schemaRef t.name)

theorem isWordy_typeSchema {t : DataType} (h : typeSchema r t = .ok v) : v.IsWordy 6 := by
  obtain ⟨members, hmembers, h⟩ := bind_eq_ok.mp h
  cases h
  have hproperties : (Value.map (Entries.ofList members)).IsWordy 5 := .map fun e he => by
    obtain ⟨field, -, hfield⟩ := mem_properties hmembers (Entries.mem_of_mem_ofList he)
    exact isWordy_fieldSchema hfield
  have hrequired : (Value.list ((t.fields.filter fun f => !f.isNullable).map fun f =>
      Value.text f.name)).IsWordy 5 := .list fun w hw => by
    obtain ⟨f, -, rfl⟩ := List.mem_map.mp hw
    exact .text f.name
  refine .record fun m hm w hw => ?_
  simp only [List.mem_cons, List.not_mem_nil, or_false] at hm
  rcases hm with rfl | rfl | rfl
  · cases hw
    exact .text _
  · cases hw
    exact hproperties
  · dsimp only at hw
    split at hw
    · cases hw
    · cases hw
      exact hrequired

/-! ## Operations -/

theorem isWordy_response (name : String) : (response name).IsWordy 4 := by
  unfold response
  split
  · exact .map (by simp [IsWordy.text])
  · exact .map (by simpa [IsWordy.text] using isWordy_jsonContent name)

theorem isWordy_operation {e : Endpoint} {o : Operation} (h : operation r e o = .ok v) :
    v.IsWordy 6 := by
  obtain ⟨body, hbody, h⟩ := bind_eq_ok.mp h
  obtain ⟨name, -, h⟩ := bind_eq_ok.mp h
  cases h
  refine .record fun m hm w hw => ?_
  simp only [List.mem_cons, List.not_mem_nil, or_false] at hm
  rcases hm with rfl | rfl | rfl | rfl | rfl
  · cases hw
    exact .list (by simp [IsWordy.text])
  · obtain ⟨s, -, rfl⟩ := Option.map_eq_some_iff.mp hw
    exact .text s
  · cases hw
    exact .text _
  · obtain rfl : body = some w := hw
    obtain ⟨p, -, t, -, rfl⟩ := requestBody_eq_ok hbody
    exact .map (by simpa [IsWordy.bool] using (isWordy_jsonContent t.name).mono (by omega))
  · cases hw
    exact .map (by simpa using isWordy_response name)

theorem isWordy_toValue {ps : Paths} (h : ∀ v ∈ ps.values, v.IsWordy d) :
    ps.toValue.IsWordy (d + 2) := by
  refine .map fun e he => ?_
  obtain ⟨⟨path, methods⟩, hpath, rfl⟩ := List.mem_map.mp he
  refine .map fun e he => ?_
  obtain ⟨⟨method, v⟩, hmethod, rfl⟩ := List.mem_map.mp he
  exact h v (List.mem_flatMap.mpr ⟨_, hpath, List.mem_map.mpr ⟨_, hmethod, rfl⟩⟩)

/-! ## Documents -/

theorem isWordy_info (heading : Heading) : (info heading).IsWordy 1 := by
  refine .record fun m hm w hw => ?_
  simp only [List.mem_cons, List.not_mem_nil, or_false] at hm
  rcases hm with rfl | rfl | rfl
  · cases hw
    exact .text _
  · obtain ⟨s, -, rfl⟩ := Option.map_eq_some_iff.mp hw
    exact .text s
  · cases hw
    exact .text _

theorem isWordy_tag (e : Endpoint) : (tag e).IsWordy 1 := by
  refine .record fun m hm w hw => ?_
  simp only [List.mem_cons, List.not_mem_nil, or_false] at hm
  rcases hm with rfl | rfl
  · cases hw
    exact .text _
  · obtain ⟨s, -, rfl⟩ := Option.map_eq_some_iff.mp hw
    exact .text s

theorem isWordy_render {heading : Heading} {m : Model} (h : render heading m = .ok document) :
    document.IsWordy 9 := by
  obtain ⟨ps, members, hps, hmembers, rfl⟩ := render_eq_ok h
  have hpaths : ps.toValue.IsWordy 8 := isWordy_toValue fun v hv => by
    rcases mem_values_foldlM_addOperation hps v hv with hv | ⟨p, -, hp⟩
    · simp [Paths.values] at hv
    · exact isWordy_operation hp
  have hschemas : (Value.map (Entries.ofList members)).IsWordy 7 := .map fun e he => by
    obtain ⟨t, -, -, ht⟩ := mem_schemas hmembers (Entries.mem_of_mem_ofList he)
    exact isWordy_typeSchema ht
  have htags : (Value.list (m.endpoints.map tag)).IsWordy 8 := .list fun w hw => by
    obtain ⟨e, -, rfl⟩ := List.mem_map.mp hw
    exact (isWordy_tag e).mono (by omega)
  refine .map fun e he => ?_
  simp only [List.mem_cons, List.not_mem_nil, or_false] at he
  rcases he with rfl | rfl | rfl | rfl | rfl
  · exact .text _
  · exact (isWordy_info heading).mono (by omega)
  · exact htags
  · exact hpaths
  · exact .map (by simpa using hschemas)

/-- The names of other files are texts too. -/
theorem isWordy_attach {file : Option String} {files : List String}
    (h : document.IsWordy (d + 3)) : (attach file files document).IsWordy (d + 3) := by
  cases document with
  | map entries =>
      unfold attach
      dsimp only
      split
      · next members hinfo =>
          have hmembers := isWordy_members (isWordy_members h _ (Entries.mem_of_get? hinfo))
          refine .map (isWordy_put (isWordy_members h) (.map ?_))
          have hfiles {members : Entries} (h : ∀ e ∈ members, e.2.IsWordy (d + 1)) :
              ∀ e ∈ if files.isEmpty then members
                else members.put objectivesKey (.list (files.map .text)), e.2.IsWordy (d + 1) := by
            split
            · exact h
            · refine isWordy_put h (.list fun w hw => ?_)
              obtain ⟨name, -, rfl⟩ := List.mem_map.mp hw
              exact .text name
          cases file with
          | none => exact hfiles hmembers
          | some file => exact hfiles (isWordy_put hmembers (.map (by simp [IsWordy.text])))
      · exact h
  | _ => exact h

end ServiceContract.Contract
