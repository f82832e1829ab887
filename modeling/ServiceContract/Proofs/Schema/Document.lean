import ServiceContract.Proofs.Generation.Artifacts
import ServiceContract.Proofs.Interface.Plan
import ServiceContract.Proofs.Schema.Operations

/-!
# The schema and the contract

Every contract is accepted by its schema, but for names that the specification gives: those that are
empty, those of types that no component can have, and those that two required fields of one type
share.
-/

namespace ServiceContract

namespace Contract

/-! ## Information -/

/-- The information of a contract that names other files. -/
def linkedInfo (heading : Heading) (agreementFile : Option String) (files : List String) : Value :=
  .record [("title", some (.text heading.title)), ("description", heading.description.map .text),
    ("version", some (.text heading.version)),
    (agreementKey, agreementFile.map fun file => .map [("$ref", .text ("./" ++ file))]),
    (objectivesKey, if files.isEmpty then none else some (.list (files.map .text)))]

theorem attach_eq {heading : Heading} {agreementFile : Option String} {files : List String}
    {openapi : Value} {rest : List (String × Value)} :
    attach agreementFile files (.map (("openapi", openapi) :: ("info", info heading) :: rest)) =
      .map (("openapi", openapi) :: ("info", linkedInfo heading agreementFile files) :: rest) := by
  cases hdescription : heading.description <;> cases agreementFile <;>
    cases hfiles : files.isEmpty <;>
    simp [attach, info, linkedInfo, Value.record, Entries.get?, Entries.put, hdescription, hfiles,
      List.lookup_cons, agreementKey, objectivesKey]

theorem accepts_linkedInfo_iff {heading : Heading} {agreementFile : Option String}
    {files : List String} (hfiles : ∀ file ∈ files, file ≠ "") (hdistinct : files.Nodup) :
    infoSchema.Accepts (linkedInfo heading agreementFile files) ↔
      heading.title ≠ "" ∧ heading.version ≠ "" := by
  have hreference : ∀ file : String, (Schema.demands [.type .object, .required ["$ref"],
      .properties [("$ref", Schema.nonEmptyString)], .closed]).Accepts
        (.map [("$ref", .text ("./" ++ file))]) := by
    intro file
    simp [accepts_map_iff, Schema.keywords, JsonType.holds, Keyword.memberSchema?, Keyword.knows,
      Entries.keys, accepts_nonEmptyString_iff]
  have hlist : (Schema.demands [.type .array, .items Schema.nonEmptyString, .uniqueItems]).Accepts
      (.list (files.map .text)) := by
    simpa [accepts_list_iff, Schema.keywords, JsonType.holds, Keyword.itemSchema?,
      accepts_nonEmptyString_iff, allDifferent_texts_iff, hdistinct] using hfiles
  rw [linkedInfo, accepts_record_iff]
  simp [infoSchema, Schema.keywords, Keyword.memberSchema?, List.lookup_cons, accepts_string,
    accepts_nonEmptyString_iff, agreementKey, objectivesKey, Keyword.knows, hreference, hlist]

/-! ## The whole contract -/

theorem accepts_tags_iff {endpoints : List Endpoint} :
    tagsSchema.Accepts (.list (endpoints.map tag)) ↔ ∀ e ∈ endpoints, e.name ≠ "" := by
  have htag : ∀ e : Endpoint, (Schema.demands [.type .object, .required ["name"],
      .properties [("name", Schema.nonEmptyString), ("description", Schema.string)],
      .closed]).Accepts (tag e) ↔ e.name ≠ "" := by
    intro e
    rw [tag, accepts_record_iff]
    simp [Schema.keywords, Keyword.memberSchema?, List.lookup_cons, accepts_string,
      accepts_nonEmptyString_iff, Keyword.knows]
  simp [tagsSchema, accepts_list_iff, Schema.keywords, JsonType.holds, Keyword.itemSchema?, htag]

/-- A contract has no violations just if none of its parts has. -/
theorem violations_eq_nil_iff {information tags paths components : Value} :
    violations (.map [("openapi", .text "3.0.1"), ("info", information), ("tags", tags),
      ("paths", paths), ("components", components)]) = [] ↔
      infoSchema.Accepts information ∧ tagsSchema.Accepts tags ∧ pathsSchema.Accepts paths ∧
        componentsSchema.Accepts components := by
  have hversion : (Schema.demands [.type .string,
      .pattern { beginning := "3.0.", rest := some .digit }]).Accepts (.text "3.0.1") := by decide
  have hschema : violations (.map [("openapi", .text "3.0.1"), ("info", information),
      ("tags", tags), ("paths", paths), ("components", components)]) = [] ↔
        (Schema.demands schemaKeywords).Accepts (.map [("openapi", .text "3.0.1"),
          ("info", information), ("tags", tags), ("paths", paths), ("components", components)]) :=
    Iff.rfl
  rw [hschema, accepts_map_iff]
  simp [Schema.keywords, schemaKeywords, JsonType.holds, Keyword.memberSchema?, List.lookup_cons,
    Keyword.knows, Entries.keys, hversion]

theorem render_eq_ok {heading : Heading} {m : Model} {document : Value}
    (h : render heading m = .ok document) : ∃ ps members, paths m = .ok ps ∧
      schemas m.registry m.registry.types = .ok members ∧
      document = .map [("openapi", .text "3.0.1"), ("info", info heading),
        ("tags", .list (m.endpoints.map tag)), ("paths", ps.toValue),
        ("components", .map [("schemas", .map (Entries.ofList members))])] := by
  obtain ⟨ps, hps, h⟩ := bind_eq_ok.mp h
  cases hmembers : schemas m.registry m.registry.types with
  | error e =>
      rw [hmembers] at h
      cases h
  | ok members =>
      rw [hmembers] at h
      cases h
      exact ⟨ps, members, hps, rfl, rfl⟩

/-- The violations of a contract come from names only. -/
theorem violations_attach_render_iff {heading : Heading} {m : Model} {document : Value}
    {agreementFile : Option String} {files : List String} (h : render heading m = .ok document)
    (hfiles : ∀ file ∈ files, file ≠ "") (hdistinct : files.Nodup)
    (hnames : (m.registry.types.map (·.name)).Nodup)
    (hpresent : ∀ t ∈ m.registry.types, t.name ≠ "") :
    violations (attach agreementFile files document) = [] ↔
      heading.title ≠ "" ∧ heading.version ≠ "" ∧
        (∀ e ∈ m.endpoints, e.name ≠ "" ∧ ∀ o ∈ e.operations, o.name ≠ "") ∧
        (∀ t ∈ m.registry.types, IsComponentName t.name) ∧
        ∀ t ∈ m.registry.types, t.requiredNames.Nodup := by
  obtain ⟨ps, members, hps, hmembers, rfl⟩ := render_eq_ok h
  rw [attach_eq, violations_eq_nil_iff, accepts_linkedInfo_iff hfiles hdistinct, accepts_tags_iff,
    accepts_paths_iff hps, accepts_components_iff hmembers hnames hpresent, and_assoc]
  have hoperations : (∀ p ∈ operations m.endpoints, p.2.name ≠ "") ↔
      ∀ e ∈ m.endpoints, ∀ o ∈ e.operations, o.name ≠ "" := by
    simp only [operations, List.forall_mem_flatMap, List.forall_mem_map]
  simp only [hoperations, forall₂_and, and_assoc]

end Contract

theorem violationMessages_perm (vs : List Violation) :
    (violationMessages vs).Perm (vs.map Violation.message) := List.mergeSort_perm _ _

/-- The order in which violations are found does not count. -/
theorem violationMessages_eq_of_perm {vs vs' : List Violation} (h : vs.Perm vs') :
    violationMessages vs = violationMessages vs' := by
  have hperm : (violationMessages vs).Perm (violationMessages vs') :=
    (violationMessages_perm vs).trans ((h.map _).trans (violationMessages_perm vs').symm)
  exact eq_of_perm_of_pairwise hperm (pairwise_mergeSort_name id _) (pairwise_mergeSort_name id _)

theorem Generation.messages_eq_nil {g : Generation} : g.messages = [] ↔ g.violations = [] := by
  rw [messages, ← List.perm_nil, (violationMessages_perm _).congr_left, List.perm_nil,
    List.map_eq_nil_iff]

namespace Specification

variable {s : Specification} {c : Configuration} {baseName : String}

/-- A contract that is checked has no violations just if the service, its version, its endpoints and
its operations have names, and its types names that components can have and required fields of
distinct names. -/
theorem messages_eq_nil_iff {g : Generation} (h : s.generate c baseName = .ok g)
    (hrun : c.contract.runValidator)
    (hread : ∀ m bundles document, s.model = .ok m →
      s.reliabilityBundles c baseName = .ok bundles →
      s.contract c baseName m bundles = .ok document →
        Yaml.read? (Yaml.render document) = some document) :
    ∃ m, s.model = .ok m ∧ (g.messages = [] ↔
      s.name ≠ "" ∧ s.version.getD c.contract.defaultVersion ≠ "" ∧
        (∀ e ∈ s.endpoints, e.name ≠ "" ∧ ∀ o ∈ e.operations, o.name ≠ "") ∧
        (∀ t ∈ m.registry.types, ∀ ch ∈ t.name.toList,
          ch.isAlphanum ∨ ch = '.' ∨ ch = '_' ∨ ch = '-') ∧
        ∀ t ∈ m.registry.types,
          ((t.fields.filter fun f => !f.isNullable).map (·.name)).Nodup) := by
  obtain ⟨m, bundles, contract, hg⟩ := generate_eq_ok.mp h
  refine ⟨m, hg.model_eq, ?_⟩
  obtain ⟨L, -, hm⟩ := Model.build_eq_ok (mapError_eq_ok.mp hg.model_eq)
  have hcontract : Contract.attach (s.agreementFile baseName) (bundles.map (·.fileName)) <$>
      Contract.render (s.heading c) m = .ok contract := hg.contract_eq
  obtain ⟨document, hdocument, rfl⟩ := map_eq_ok.mp hcontract
  have hviolations : g.violations = Contract.violations (Contract.attach
      (s.agreementFile baseName) (bundles.map (·.fileName)) document) := by
    have hchecked := hg.violations_eq
    rw [contractViolations, if_pos hrun, Contract.textViolations?,
      hread m bundles _ hg.model_eq hg.bundles_eq hg.contract_eq] at hchecked
    exact (Except.ok.inj hchecked).symm
  have hnames : (m.registry.types.map (·.name)).Nodup := by
    rw [hm.registry.names_eq]
    exact hm.registry.distinct
  have hendpoints : (∀ e ∈ m.endpoints, e.name ≠ "" ∧ ∀ o ∈ e.operations, o.name ≠ "") ↔
      ∀ e ∈ s.endpoints, e.name ≠ "" ∧ ∀ o ∈ e.operations, o.name ≠ "" := by
    rw [hm.endpoints_eq]
    simp only [List.forall_mem_map, EndpointDeclaration.resolved, OperationDeclaration.resolved]
  rw [Generation.messages_eq_nil, hviolations,
    Contract.violations_attach_render_iff hdocument hg.fileName_ne_empty hg.fileNames_nodup hnames
      hm.registry.name_ne_empty, hendpoints]
  exact Iff.rfl

/-- A specification whose one type has a name that no component can have. -/
def spacedShop : Specification where
  name := "Shop"
  version := none
  description := none
  dataTypes := [⟨"my order", .atoms ⟨none, [], none⟩⟩]
  endpoints := []
  agreementTemplates := []
  objectiveTemplates := []
  indicators := []
  alertPolicies := []
  notificationTargets := []
  dataSources := []
  services := []

def spacedShopModel : Model := ⟨⟨[⟨"my order", []⟩], [("my order", ⟨0⟩)]⟩, []⟩

def spacedShopContract : Value :=
  .map [("openapi", .text "3.0.1"),
    ("info", .map [("title", .text "Shop"), ("version", .text "1.0")]), ("tags", .list []),
    ("paths", .map []), ("components", .map [("schemas", .map [("my order",
      .map [("type", .text "object"), ("properties", .map [])])])])]

def spacedShopRun : Generation where
  artifacts := [⟨"base.yaml", Yaml.render spacedShopContract⟩]
  findings := spacedShop.findings {}
  violations := [.mismatch (.text "my order") { beginning := "", rest := some .nameCharacter }]

theorem model_spacedShop : spacedShop.model = .ok spacedShopModel := by decide +kernel

theorem contract_spacedShop :
    spacedShop.contract {} "base" spacedShopModel [] = .ok spacedShopContract := by decide +kernel

theorem read_spacedShopContract :
    Yaml.read? (Yaml.render spacedShopContract) = some spacedShopContract := by decide +kernel

theorem contractViolations_spacedShop {c : Configuration} (hrun : c.contract.runValidator) :
    contractViolations c (Yaml.render spacedShopContract) = .ok spacedShopRun.violations := by
  have hviolations : Contract.violations spacedShopContract = spacedShopRun.violations := by
    decide +kernel
  rw [contractViolations, if_pos hrun, Contract.textViolations?, read_spacedShopContract,
    Option.map_some, hviolations]

theorem generate_spacedShop : spacedShop.generate {} "base" = .ok spacedShopRun :=
  generate_eq_ok.mpr ⟨spacedShopModel, [], spacedShopContract, {
    model_eq := model_spacedShop
    bundles_eq := by rfl
    contract_eq := contract_spacedShop
    findings_eq := rfl
    violations_eq := contractViolations_spacedShop rfl
    accepted := by decide
    artifacts_eq := (List.mergeSort_singleton _).symm
    names_ok := by decide +kernel }⟩

theorem messages_eq_nil_iff_spacedShop :
    spacedShop.generate {} "base" = .ok spacedShopRun ∧ ∃ m, spacedShop.model = .ok m ∧
      (∃ t ∈ m.registry.types, ' ' ∈ t.name.toList) ∧ spacedShopRun.messages ≠ [] := by
  refine ⟨generate_spacedShop, ?_⟩
  have hread : ∀ m bundles document, spacedShop.model = .ok m →
      spacedShop.reliabilityBundles {} "base" = .ok bundles →
      spacedShop.contract {} "base" m bundles = .ok document →
        Yaml.read? (Yaml.render document) = some document := by
    intro m bundles document hm hbundles hdocument
    obtain rfl := Except.ok.inj (model_spacedShop.symm.trans hm)
    obtain rfl : [] = bundles := Except.ok.inj hbundles
    obtain rfl := Except.ok.inj (contract_spacedShop.symm.trans hdocument)
    exact read_spacedShopContract
  obtain ⟨m, hm, hiff⟩ := messages_eq_nil_iff generate_spacedShop rfl hread
  obtain rfl := Except.ok.inj (model_spacedShop.symm.trans hm)
  refine ⟨spacedShopModel, hm, ⟨⟨"my order", []⟩, by decide, by decide⟩, ?_⟩
  intro hmessages
  obtain ⟨-, -, -, hnames, -⟩ := hiff.mp hmessages
  have hspace := hnames ⟨"my order", []⟩ (by decide) ' ' (by decide)
  revert hspace
  decide

end Specification

end ServiceContract
