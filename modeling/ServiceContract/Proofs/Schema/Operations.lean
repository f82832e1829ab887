import ServiceContract.Proofs.Schema.Types

/-!
# Schemas of operations

An operation is accepted just if it has a name, and so are the paths of all operations: whatever the
methods, bodies and answers, and however operations share their paths.
-/

namespace ServiceContract.Contract

/-! ## One operation -/

theorem accepts_jsonContent (name : String) :
    (Schema.defined .content).Accepts (jsonContent name) := by
  simp [jsonContent, accepts_map_iff, Schema.keywords, Definition.keywords, JsonType.holds,
    Keyword.memberSchema?, Keyword.knows, isTypeSchema_schemaRef]

theorem accepts_response (name : String) :
    responsesSchema.Accepts (.map [("200", response name)]) := by
  unfold response
  split
  · decide
  · simp [responsesSchema, accepts_map_iff, Schema.keywords, JsonType.holds,
      Keyword.memberSchema?, Keyword.knows, List.lookup_cons, accepts_jsonContent, accepts_string,
      Entries.keys]

theorem accepts_requestBody {r : Registry} {method : Method} {ps : List OperationParameter}
    {v : Value} (h : requestBody r method ps = .ok (some v)) : bodySchema.Accepts v := by
  -- the last parameter with a body decides, so the rest comes first
  induction ps generalizing v with
  | nil => cases h
  | cons p rest ih =>
      unfold requestBody at h
      split at h
      · cases h
      · obtain ⟨t, ht, h⟩ := bind_eq_ok.mp h
        obtain ⟨later, hlater, h⟩ := bind_eq_ok.mp h
        cases later with
        | some w =>
            cases h
            exact ih hlater
        | none =>
            by_cases hfields : t.fields.isEmpty
            · simp [hfields, pure, Except.pure] at h
            · have hv : v = .map [("required", .bool true), ("content", jsonContent t.name)] := by
                simpa [hfields, pure, Except.pure, eq_comm] using h
              subst hv
              simp [bodySchema, accepts_map_iff, Schema.keywords, JsonType.holds,
                Keyword.memberSchema?, List.lookup_cons, accepts_jsonContent, Entries.keys,
                accepts_bool_iff, Schema.boolean]

theorem accepts_operation_iff {r : Registry} {endpoint : Endpoint} {o : Operation} {v : Value}
    (h : operation r endpoint o = .ok v) :
    (Schema.defined .operation).Accepts v ↔ o.name ≠ "" := by
  obtain ⟨body, hbody, h⟩ := bind_eq_ok.mp h
  obtain ⟨name, -, h⟩ := bind_eq_ok.mp h
  cases h
  have htags : Schema.strings.Accepts (.list [.text endpoint.name]) :=
    accepts_strings [endpoint.name]
  have hrequest : ∀ w, body = some w → bodySchema.Accepts w := by
    rintro w rfl
    exact accepts_requestBody hbody
  rw [accepts_record_iff]
  simpa [Schema.keywords, Definition.keywords, Keyword.memberSchema?, List.lookup_cons, htags,
    accepts_string, accepts_nonEmptyString_iff, accepts_response] using fun _ => hrequest

/-! ## Paths -/

/-- The operations that paths hold. -/
def Paths.values (paths : Paths) : List Value := paths.flatMap fun p => p.2.map Prod.snd

theorem Paths.mem_names_add {paths : Paths} {p q : String} {method : Method} {v : Value}
    (h : q ∈ (paths.add p method v).map Prod.fst) : q = p ∨ q ∈ paths.map Prod.fst := by
  induction paths with
  | nil => exact .inl (List.mem_singleton.mp h)
  | cons first rest ih =>
      obtain ⟨k, methods⟩ := first
      unfold add at h
      split at h
      · exact .inr h
      · rcases List.mem_cons.mp h with rfl | h
        · exact .inr List.mem_cons_self
        · exact (ih h).imp_right (List.mem_cons_of_mem _)

theorem Paths.mem_values_add {paths : Paths} {p : String} {method : Method} {v w : Value} :
    w ∈ (paths.add p method v).values ↔ w = v ∨ w ∈ paths.values := by
  induction paths with
  | nil => simp [add, values]
  | cons first rest ih =>
      obtain ⟨q, methods⟩ := first
      simp only [values, List.flatMap_cons, List.mem_append] at ih ⊢
      unfold add
      split
      · simp only [List.flatMap_cons, List.map_append, List.mem_append, List.map_cons,
          List.map_nil, List.mem_singleton]
        rw [or_comm (b := w = v), or_assoc]
      · simp only [List.flatMap_cons, List.mem_append, ih]
        rw [or_left_comm]

/-- Whether all paths begin with a slash. -/
def Paths.AreRooted (paths : Paths) : Prop :=
  ∀ p ∈ paths.map Prod.fst, ∃ rest, p = "/" ++ rest

theorem addOperation_eq_ok {r : Registry} {done paths : Paths} {e : Endpoint} {o : Operation}
    (h : addOperation r done e o = .ok paths) :
    ∃ v, operation r e o = .ok v ∧ paths = done.add (path e o) o.method v := by
  unfold addOperation at h
  dsimp only at h
  split at h
  · cases h
  · cases ho : operation r e o with
    | ok v =>
        rw [ho] at h
        cases h
        exact ⟨v, rfl, rfl⟩
    | error err =>
        rw [ho] at h
        cases h

/-- Adding operations to paths adds just what they are written as. -/
theorem foldlM_addOperation_eq_ok {r : Registry} {os : List (Endpoint × Operation)}
    {done paths : Paths}
    (h : os.foldlM (fun done (e, o) => addOperation r done e o) done = .ok paths)
    (hdone : done.AreRooted) :
    paths.AreRooted ∧ ((∀ v ∈ paths.values, (Schema.defined .operation).Accepts v) ↔
      (∀ v ∈ done.values, (Schema.defined .operation).Accepts v) ∧ ∀ p ∈ os, p.2.name ≠ "") := by
  induction os generalizing done with
  | nil =>
      cases h
      exact ⟨hdone, by simp⟩
  | cons p rest ih =>
      rw [List.foldlM_cons] at h
      obtain ⟨next, hnext, h⟩ := bind_eq_ok.mp h
      obtain ⟨v, hv, rfl⟩ := addOperation_eq_ok hnext
      have hrooted : (done.add (path p.1 p.2) p.2.method v).AreRooted := by
        intro q hq
        rcases Paths.mem_names_add hq with rfl | hq
        · exact ⟨p.1.name ++ "/" ++ p.2.name, by simp [path, String.append_assoc]⟩
        · exact hdone q hq
      obtain ⟨hpaths, hvalues⟩ := ih h hrooted
      refine ⟨hpaths, ?_⟩
      rw [hvalues, List.forall_mem_cons, ← accepts_operation_iff hv]
      simp only [Paths.mem_values_add, forall_eq_or_imp]
      rw [and_assoc, and_left_comm]

theorem accepts_pathItem_iff {methods : List (Method × Value)} :
    (Schema.defined .pathItem).Accepts (.map (methods.map fun m => (m.1.keyword, m.2))) ↔
      ∀ m ∈ methods, (Schema.defined .operation).Accepts m.2 := by
  have hrule : ∀ m : Method,
      (KeyRule.oneOf ["get", "put", "post", "patch", "delete"]).violations m.keyword = [] := by
    intro m
    cases m <;> decide
  refine accepts_propertyNames_iff.trans ?_
  rw [Entries.keys, List.map_map, List.forall_mem_map, List.forall_mem_map]
  exact and_iff_right fun m _ => hrule m.1

theorem accepts_pathsSchema_iff {ps : Paths} (h : ps.AreRooted) :
    pathsSchema.Accepts ps.toValue ↔ ∀ v ∈ ps.values, (Schema.defined .operation).Accepts v := by
  have hrule : ∀ p ∈ ps, (KeyRule.pattern { beginning := "/" }).violations p.1 = [] := by
    intro p hp
    obtain ⟨rest, hrest⟩ := h p.1 (List.mem_map_of_mem hp)
    rw [KeyRule.violations, violationUnless_eq_nil, hrest]
    exact holds_append rfl rest
  refine accepts_propertyNames_iff.trans ?_
  rw [Entries.keys, List.map_map, List.forall_mem_map, List.forall_mem_map]
  refine (and_iff_right hrule).trans ?_
  simp only [accepts_pathItem_iff, Paths.values, List.forall_mem_flatMap, List.forall_mem_map]

/-- The paths of a service are accepted just if its operations have names. -/
theorem accepts_paths_iff {m : Model} {ps : Paths} (h : paths m = .ok ps) :
    pathsSchema.Accepts ps.toValue ↔ ∀ p ∈ operations m.endpoints, p.2.name ≠ "" := by
  have hstart : Paths.AreRooted [] := by simp [Paths.AreRooted]
  have hnone : ∀ v ∈ Paths.values [], (Schema.defined .operation).Accepts v := by
    simp [Paths.values]
  obtain ⟨hrooted, hvalues⟩ := foldlM_addOperation_eq_ok h hstart
  rw [accepts_pathsSchema_iff hrooted, hvalues, and_iff_right hnone]

end ServiceContract.Contract
