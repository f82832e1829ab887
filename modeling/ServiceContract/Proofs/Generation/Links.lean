import ServiceContract.Proofs.Reliability.Bundle
import ServiceContract.Proofs.Schema.Document
import ServiceContract.Proofs.Text.ByteOrder

/-!
# Links between artifacts

The contract of a run names the other files of the run, each once and no others. As the three kinds
of names cannot be the same, only templates of one name can make two files of one name.
-/

namespace ServiceContract

/-! ## Names of files -/

namespace Specification

variable {s : Specification} {c : Configuration} {baseName : String} {g : Generation}

/-- The names of the files besides the contract: that of the agreements if there are any, and one
for every template of objectives. -/
def otherFiles (s : Specification) (baseName : String) : List String :=
  (s.agreementFile baseName).toList ++
    s.objectiveTemplates.map fun t => Reliability.fileName baseName t.name

theorem mem_agreementFile {file : String} :
    file ∈ (s.agreementFile baseName).toList ↔
      s.agreementTemplates ≠ [] ∧ file = Agreement.fileName baseName := by
  unfold agreementFile
  cases s.agreementTemplates <;> simp

theorem contractFile_ne_agreementFile :
    Contract.fileName baseName ≠ Agreement.fileName baseName := by
  simp [Contract.fileName, Agreement.fileName, ← String.toList_inj]

theorem contractFile_ne_objectiveFile (template : String) :
    Contract.fileName baseName ≠ Reliability.fileName baseName template := by
  simp [Contract.fileName, Reliability.fileName, Reliability.fileMark, Reliability.fileEnding,
    ← String.toList_inj]

theorem agreementFile_ne_objectiveFile (template : String) :
    Agreement.fileName baseName ≠ Reliability.fileName baseName template := by
  intro h
  have hlists := congrArg String.toList h
  have hending : "-sla.yaml".toList = '-' :: 's' :: "la.yaml".toList := by decide
  have hmark : Reliability.fileMark.toList = '-' :: 'o' :: "penslo-".toList := by decide
  simp only [Agreement.fileName, Reliability.fileName, String.toList_append, List.append_assoc,
    List.append_cancel_left_eq, hending, hmark] at hlists
  exact absurd (List.cons.inj (List.cons.inj hlists).2).1 (by decide)

theorem objectiveFile_injective : Function.Injective (Reliability.fileName baseName) := by
  intro a b h
  have hlists := congrArg String.toList h
  simp only [Reliability.fileName, String.toList_append, List.append_cancel_left_eq,
    List.append_cancel_right_eq] at hlists
  exact String.toList_inj.mp hlists

theorem contractFile_notMem_otherFiles : Contract.fileName baseName ∉ s.otherFiles baseName := by
  intro h
  rcases List.mem_append.mp h with h | h
  · exact contractFile_ne_agreementFile (mem_agreementFile.mp h).2
  · obtain ⟨t, -, ht⟩ := List.mem_map.mp h
    exact contractFile_ne_objectiveFile t.name ht.symm

theorem agreementFile_mem_otherFiles :
    Agreement.fileName baseName ∈ s.otherFiles baseName ↔ s.agreementTemplates ≠ [] := by
  constructor
  · intro h
    rcases List.mem_append.mp h with h | h
    · exact (mem_agreementFile.mp h).1
    · obtain ⟨t, -, ht⟩ := List.mem_map.mp h
      exact absurd ht.symm (agreementFile_ne_objectiveFile t.name)
  · exact fun h => List.mem_append_left _ (mem_agreementFile.mpr ⟨h, rfl⟩)

/-- The files of objectives, by the names of the templates. -/
theorem objectiveFiles_eq :
    (s.objectiveTemplates.map fun t => Reliability.fileName baseName t.name) =
      (s.objectiveTemplates.map (·.name)).map (Reliability.fileName baseName) := by
  rw [List.map_map]
  rfl

theorem agreementFile_nodup : (s.agreementFile baseName).toList.Nodup := by
  cases s.agreementFile baseName <;> simp

/-- The files have distinct names just if the templates of objectives have. -/
theorem fileNames_nodup_iff :
    (Contract.fileName baseName :: s.otherFiles baseName).Nodup ↔
      (s.objectiveTemplates.map (·.name)).Nodup := by
  have hdisjoint : (s.agreementFile baseName).toList.Disjoint
      (s.objectiveTemplates.map fun t => Reliability.fileName baseName t.name) := by
    intro file hfile hmem
    obtain ⟨t, -, ht⟩ := List.mem_map.mp hmem
    exact agreementFile_ne_objectiveFile t.name ((mem_agreementFile.mp hfile).2.symm.trans ht.symm)
  rw [List.nodup_cons, and_iff_right contractFile_notMem_otherFiles, otherFiles,
    List.nodup_append', and_iff_right agreementFile_nodup, and_iff_left hdisjoint,
    objectiveFiles_eq, List.nodup_map_iff objectiveFile_injective]

/-- The order of artifacts does not matter for the check of their names. -/
theorem checkNames_sortByPath {as : List Artifact} :
    checkNames [] (sortByPath as) = .ok () ↔ checkNames [] as = .ok () := by
  have hp := sortByPath_perm as
  rw [checkNames_eq_ok, checkNames_eq_ok, (hp.map _).nodup_iff]
  simp only [hp.mem_iff]

/-- The bundles of a run, with the documents around them, are the contract and the other files. -/
theorem unsortedPaths_perm {bundles : List ReliabilityBundle}
    (h : s.reliabilityBundles c baseName = .ok bundles) (text : String) :
    (List.map Artifact.path (s.agreementArtifacts baseName ++
      bundles.map (fun b => ⟨b.fileName, b.text⟩) ++ [⟨Contract.fileName baseName, text⟩])).Perm
        (Contract.fileName baseName :: s.otherFiles baseName) := by
  have hagreements : (s.agreementArtifacts baseName).map (·.path) =
      (s.agreementFile baseName).toList := by
    simp [agreementArtifacts, Function.comp_def]
  have hbundles : (bundles.map fun b => (⟨b.fileName, b.text⟩ : Artifact)).map (·.path) =
      s.objectiveTemplates.map fun t => Reliability.fileName baseName t.name := by
    rw [← reliabilityBundles_fileName h, List.map_map]
    rfl
  rw [List.map_append, List.map_append, hagreements, hbundles]
  exact List.perm_append_singleton _ _

/-- The artifacts of a run are the contract and the other files. -/
theorem paths_perm (h : s.generate c baseName = .ok g) :
    (g.artifacts.map (·.path)).Perm (Contract.fileName baseName :: s.otherFiles baseName) := by
  obtain ⟨model, bundles, contract, hg⟩ := generate_eq_ok.mp h
  rw [hg.artifacts_eq]
  exact ((sortByPath_perm _).map _).trans (unsortedPaths_perm hg.bundles_eq _)

/-- The artifacts of a run stand in the strict order of the bytes of their paths. -/
theorem paths_pairwise_bytes (h : s.generate c baseName = .ok g) :
    g.artifacts.Pairwise fun a b => Text.bytes a.path < Text.bytes b.path := by
  have hdistinct : g.artifacts.Pairwise (·.path ≠ ·.path) :=
    List.pairwise_map.mp (artifacts_nodup h)
  refine ((artifacts_pairwise h).and hdistinct).imp ?_
  rintro a b ⟨hle, hne⟩
  exact Text.bytes_lt_of_le_of_ne hle hne

end Specification

/-! ## Links in the contract -/

namespace Contract

/-- What is added to the information of a contract. -/
def linkMembers (agreementFile : Option String) (files : List String) : Entries :=
  agreementFile.toList.map (fun file => (agreementKey, .map [("$ref", .text ("./" ++ file))])) ++
    if files.isEmpty then [] else [(objectivesKey, .list (files.map .text))]

/-- The files that a contract refers to: that of the agreements, which stands behind a step to the
same directory, and those of the objectives. -/
def links (contract : Value) : List String :=
  ((contract.textAt? ["info", agreementKey, "$ref"]).map fun text =>
    String.ofList (text.toList.drop 2)).toList ++
      (contract.itemsAt ["info", objectivesKey]).filterMap Value.text?

variable {heading : Heading} {agreementFile : Option String} {files : List String}

theorem linkedInfo_eq :
    linkedInfo heading agreementFile files =
      .map ((info heading).members ++ linkMembers agreementFile files) := by
  cases hdescription : heading.description <;> cases agreementFile <;>
    cases hfiles : files.isEmpty <;>
    simp [linkedInfo, info, Value.record, linkMembers, hdescription, hfiles, Value.members,
      Value.entries?]

theorem info_eq (heading : Heading) : info heading = .map (info heading).members := by
  rw [info, Value.record, Value.members_map]

theorem at?_agreementKey {openapi : Value} {rest : List (String × Value)} (path : List String) :
    (Value.map (("openapi", openapi) :: ("info", linkedInfo heading agreementFile files) ::
      rest)).at? ("info" :: agreementKey :: path) =
        agreementFile.bind fun file => (Value.map [("$ref", .text ("./" ++ file))]).at? path := by
  cases agreementFile <;> simp [linkedInfo, agreementKey, objectivesKey]

theorem at?_objectivesKey {openapi : Value} {rest : List (String × Value)} :
    (Value.map (("openapi", openapi) :: ("info", linkedInfo heading agreementFile files) ::
      rest)).at? ["info", objectivesKey] =
        if files.isEmpty then none else some (.list (files.map .text)) := by
  cases hfiles : files.isEmpty <;> simp [linkedInfo, agreementKey, objectivesKey, hfiles]

theorem links_eq {openapi : Value} {rest : List (String × Value)} :
    links (.map (("openapi", openapi) :: ("info", linkedInfo heading agreementFile files) ::
      rest)) = agreementFile.toList ++ files := by
  have hagreement : (agreementFile.bind fun file =>
      (Value.map [("$ref", .text ("./" ++ file))]).at? ["$ref"]).bind Value.text? =
        agreementFile.map ("./" ++ ·) := by
    cases agreementFile <;> simp
  have hstep : (fun text : String => String.ofList (text.toList.drop 2)) ∘ ("./" ++ ·) = id := by
    funext file
    simp
  have hobjectives : (Option.elim (if files.isEmpty then none
      else some (Value.list (files.map .text))) [] Value.items).filterMap Value.text? = files := by
    cases files <;> simp [Function.comp_def]
  rw [links, Value.textAt?, Value.itemsAt, at?_agreementKey, at?_objectivesKey, hagreement,
    hobjectives, Option.map_map, hstep, Option.map_id, id]

end Contract

/-! ## Runs and their links -/

namespace Specification

variable {s : Specification} {c : Configuration} {baseName : String} {g : Generation}

/-- The artifacts of a run and the links in its contract. -/
structure LinksArtifacts (s : Specification) (c : Configuration) (baseName : String)
    (g : Generation) (contract : Value) : Prop where
  /-- The artifacts stand in the order of the bytes of their paths, each under a path of its own. -/
  ordered : g.artifacts.Pairwise fun a b => Text.bytes a.path < Text.bytes b.path
  /-- The paths are those of the contract, of the agreements and of the templates. -/
  paths_perm : (g.artifacts.map (·.path)).Perm ((baseName ++ ".yaml") ::
    ((if s.agreementTemplates = [] then [] else [baseName ++ "-sla.yaml"]) ++
      s.objectiveTemplates.map fun t => baseName ++ "-openslo-" ++ t.name ++ ".yaml"))
  agreements_iff : baseName ++ "-sla.yaml" ∈ g.artifacts.map (·.path) ↔ s.agreementTemplates ≠ []
  templates_distinct : (s.objectiveTemplates.map (·.name)).Nodup
  contract_mem : ⟨baseName ++ ".yaml", Yaml.render contract⟩ ∈ g.artifacts
  /-- The information names the file of the agreements just if there are any. -/
  agreement_link : contract.at? ["info", "x-external-sla-file"] =
    if s.agreementTemplates = [] then none
      else some (.map [("$ref", .text ("./" ++ (baseName ++ "-sla.yaml")))])
  /-- The information names the files of the templates, in their order, just if there are any. -/
  objectives_link : contract.at? ["info", "x-openslo"] =
    if s.objectiveTemplates = [] then none
      else some (.list (s.objectiveTemplates.map fun t =>
        .text (baseName ++ "-openslo-" ++ t.name ++ ".yaml")))
  /-- The contract refers to every other artifact, and to no other file. -/
  mem_links_iff : ∀ file, file ∈ Contract.links contract ↔
    file ∈ g.artifacts.map (·.path) ∧ file ≠ baseName ++ ".yaml"
  links_nodup : (Contract.links contract).Nodup
  /-- The contract is the one that was rendered, with the links behind its information. -/
  rendered : ∃ model version members rest, s.model = .ok model ∧
    Contract.render (s.heading c) model =
      .ok (.map (("openapi", version) :: ("info", .map members) :: rest)) ∧
    contract = .map (("openapi", version) :: ("info", .map (members ++ Contract.linkMembers
      (s.agreementFile baseName)
      (s.objectiveTemplates.map fun t => baseName ++ "-openslo-" ++ t.name ++ ".yaml"))) :: rest)

/-- A run that succeeds has rendered a contract and added links to its information. -/
theorem exists_linked_contract (h : s.generate c baseName = .ok g) :
    ∃ model version rest, s.model = .ok model ∧
      Contract.render (s.heading c) model =
        .ok (.map (("openapi", version) :: ("info", Contract.info (s.heading c)) :: rest)) ∧
      ⟨Contract.fileName baseName, Yaml.render (.map (("openapi", version) :: ("info",
        Contract.linkedInfo (s.heading c) (s.agreementFile baseName)
          (s.objectiveTemplates.map fun t => Reliability.fileName baseName t.name)) :: rest))⟩ ∈
        g.artifacts := by
  obtain ⟨model, bundles, contract, hg⟩ := generate_eq_ok.mp h
  have hcontract : Contract.attach (s.agreementFile baseName) (bundles.map (·.fileName)) <$>
      Contract.render (s.heading c) model = .ok contract := hg.contract_eq
  obtain ⟨document, hdocument, rfl⟩ := map_eq_ok.mp hcontract
  obtain ⟨ps, members, -, -, rfl⟩ := Contract.render_eq_ok hdocument
  rw [reliabilityBundles_fileName hg.bundles_eq, Contract.attach_eq] at hg
  refine ⟨model, _, _, hg.model_eq, hdocument, ?_⟩
  rw [hg.artifacts_eq, (sortByPath_perm _).mem_iff]
  exact List.mem_append_right _ (List.mem_singleton_self _)

/-- The contract of a run refers to each other artifact once, and to nothing else. -/
theorem generate_linksArtifacts (h : s.generate c baseName = .ok g) :
    ∃ contract, s.LinksArtifacts c baseName g contract := by
  obtain ⟨model, version, rest, hmodel, hdocument, hmem⟩ := exists_linked_contract h
  have hpaths := paths_perm h
  have hnodup := hpaths.nodup_iff.mp (artifacts_nodup h)
  refine ⟨.map (("openapi", version) :: ("info", Contract.linkedInfo (s.heading c)
    (s.agreementFile baseName)
    (s.objectiveTemplates.map fun t => Reliability.fileName baseName t.name)) :: rest), ?_⟩
  constructor
  case ordered => exact paths_pairwise_bytes h
  case paths_perm =>
    refine hpaths.trans (.of_eq ?_)
    unfold otherFiles agreementFile
    cases s.agreementTemplates <;> rfl
  case agreements_iff =>
    have hne : baseName ++ "-sla.yaml" ≠ Contract.fileName baseName :=
      contractFile_ne_agreementFile.symm
    rw [hpaths.mem_iff, List.mem_cons]
    exact (or_iff_right hne).trans agreementFile_mem_otherFiles
  case templates_distinct => exact fileNames_nodup_iff.mp hnodup
  case contract_mem => exact hmem
  case agreement_link =>
    refine (Contract.at?_agreementKey []).trans ?_
    unfold agreementFile
    cases s.agreementTemplates <;> rfl
  case objectives_link =>
    refine Contract.at?_objectivesKey.trans ?_
    cases s.objectiveTemplates with
    | nil => rfl
    | cons t more => simp [Reliability.fileName, Reliability.fileMark, Reliability.fileEnding]
  case mem_links_iff =>
    intro file
    rw [Contract.links_eq, hpaths.mem_iff, List.mem_cons]
    constructor
    · intro hfile
      refine ⟨.inr hfile, ?_⟩
      rintro rfl
      exact contractFile_notMem_otherFiles hfile
    · rintro ⟨hfile | hfile, hne⟩
      · exact absurd hfile hne
      · exact hfile
  case links_nodup =>
    rw [Contract.links_eq]
    exact (List.nodup_cons.mp hnodup).2
  case rendered =>
    rw [Contract.info_eq] at hdocument
    refine ⟨model, version, _, rest, hmodel, hdocument, ?_⟩
    rw [Contract.linkedInfo_eq]
    rfl

/-- The template of the checkout under another name. -/
def basketTemplate : ObjectiveTemplate := { Reliability.checkoutTemplate with name := "basket" }

/-- The shop of the checkout, with agreements and a second template that comes before the first in
the order of paths. -/
def linkedShop : Specification :=
  { Reliability.checkoutSpecification with
    agreementTemplates := [⟨"gold", []⟩]
    objectiveTemplates := [Reliability.checkoutTemplate, basketTemplate] }

/-- Settings by which no contract is checked. -/
def uncheckedSettings : Configuration :=
  { contract := { runValidator := false }, reliability := { thresholdObjectives := .full } }

def linkedShopBundles : List ReliabilityBundle :=
  [Reliability.checkoutBundle, ⟨"shop-openslo-basket.yaml", "basket",
    Reliability.checkoutSelection.documents .full basketTemplate⟩]

def linkedShopContract : Value :=
  .map [("openapi", .text "3.0.1"),
    ("info", .map [("title", .text "Shop"), ("version", .text "1.0"),
      ("x-external-sla-file", .map [("$ref", .text "./shop-sla.yaml")]),
      ("x-openslo", .list [.text "shop-openslo-checkout.yaml",
        .text "shop-openslo-basket.yaml"])]),
    ("tags", .list []), ("paths", .map []), ("components", .map [("schemas", .map [])])]

/-- What is generated from it. -/
def linkedShopRun : Generation where
  artifacts := sortByPath (linkedShop.agreementArtifacts "shop" ++
    linkedShopBundles.map (fun b => ⟨b.fileName, b.text⟩) ++
      [⟨"shop.yaml", Yaml.render linkedShopContract⟩])
  findings := linkedShop.findings uncheckedSettings.validation
  violations := []

theorem generate_linkedShop : linkedShop.generate uncheckedSettings "shop" = .ok linkedShopRun :=
  generate_eq_ok.mpr ⟨⟨.empty, []⟩, linkedShopBundles, linkedShopContract, {
    model_eq := by decide
    bundles_eq := by decide +kernel
    contract_eq := by decide +kernel
    findings_eq := rfl
    violations_eq := rfl
    accepted := by decide
    artifacts_eq := rfl
    names_ok := checkNames_sortByPath.mpr (by decide +kernel) }⟩

theorem generate_linksArtifacts_shop :
    linkedShop.generate uncheckedSettings "shop" = .ok linkedShopRun ∧
      ∃ contract, linkedShop.LinksArtifacts uncheckedSettings "shop" linkedShopRun contract :=
  ⟨generate_linkedShop, generate_linksArtifacts generate_linkedShop⟩

end Specification

end ServiceContract
