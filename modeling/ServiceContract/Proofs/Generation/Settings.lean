import ServiceContract.Proofs.Generation.Faults
import ServiceContract.Proofs.Reliability.Extraction

/-!
# What settings change

The artifacts of a run depend on the version that is taken for granted and on what is written for
thresholds. Of the second only the objectives of templates with a threshold depend. All other
settings decide at most whether the run is refused.
-/

namespace ServiceContract

/-! ## Objectives of thresholds -/

namespace Reliability

/-- Two bundles that differ in the objectives of their first document at most. -/
structure ChangesObjectives (b b' : ReliabilityBundle) : Prop where
  fileName : b'.fileName = b.fileName
  template : b'.template = b.template
  documents : ∃ (head front back : Entries) (os os' : List Value) (rest : List Value),
    b.documents = .map (head ++ [("spec", .map (front ++ ("objectives", .list os) :: back))]) ::
      rest ∧
    b'.documents = .map (head ++ [("spec", .map (front ++ ("objectives", .list os') :: back))]) ::
      rest ∧
    head.get? "kind" = some (.text "SLO") ∧ "spec" ∉ head.keys ∧
    "objectives" ∉ (front ++ back).keys

/-- The indicator of a template is a threshold. -/
def MeasuresThreshold (s : Specification) (t : ObjectiveTemplate) : Prop :=
  ∃ i, indicatorOf s t = .ok i ∧ i.metric.isThreshold

variable {mode mode' : ThresholdObjectives} {s : Specification} {t : ObjectiveTemplate}
  {i : Indicator}

/-- The members of the specification of an objective before its list of objectives. -/
def objectivesFront (t : ObjectiveTemplate) : Entries :=
  specificationFront t ++
    [match t.indicator with
      | .builtIn own => ("indicator", inlineIndicator own)
      | .external name => ("indicatorRef", .text name),
    ("timeWindow", timeWindow t.timeWindow), ("budgetingMethod", .text t.budgetingMethod)]

/-- The member of the specification of an objective behind its list of objectives. -/
def objectivesBack (policies : List AlertPolicy) : Entries :=
  [("alertPolicies", .list (policies.map fun p => .text p.name))]

theorem objectiveDocument_eq_objectives (mode : ThresholdObjectives) (ps : List AlertPolicy) :
    objectiveDocument mode t i ps = .map (objectiveHead t ++ [("spec",
      .map (objectivesFront t ++ ("objectives", .list (objectives mode t i)) ::
        objectivesBack ps))]) := by
  cases hi : t.indicator with
  | builtIn own =>
      have hmember : bindingMember t.indicator = ("indicator", some (inlineIndicator own)) := by
        rw [hi]
        rfl
      rw [objectiveDocument_eq ps hmember]
      simp [objectivesFront, objectivesBack, specificationBack, hi]
  | external name =>
      have hmember : bindingMember t.indicator = ("indicatorRef", some (.text name)) := by
        rw [hi]
        rfl
      rw [objectiveDocument_eq ps hmember]
      simp [objectivesFront, objectivesBack, specificationBack, hi]

theorem objectives_notMem_keys (ps : List AlertPolicy) :
    "objectives" ∉ (objectivesFront t ++ objectivesBack ps).keys := by
  cases hdescription : t.description <;> cases hi : t.indicator <;>
    simp [objectivesFront, objectivesBack, specificationFront, Entries.keys, hdescription, hi]

theorem changesObjectives_documents (file : String) (ps : List AlertPolicy) (rest : List Value) :
    ChangesObjectives ⟨file, t.name, objectiveDocument mode t i ps :: rest⟩
      ⟨file, t.name, objectiveDocument mode' t i ps :: rest⟩ := by
  refine ⟨rfl, rfl, objectiveHead t, objectivesFront t, objectivesBack ps, objectives mode t i,
    objectives mode' t i, rest, ?_, ?_, rfl, ?_, objectives_notMem_keys ps⟩
  · rw [objectiveDocument_eq_objectives]
  · rw [objectiveDocument_eq_objectives]
  · simp [objectiveHead, Entries.keys]

/-- What is written for thresholds does not change the objectives of a ratio. -/
theorem objectives_of_not_isThreshold (mode mode' : ThresholdObjectives)
    (h : ¬ i.metric.isThreshold) : objectives mode t i = objectives mode' t i := by
  simp [objectives, h]

/-- A template cannot be rendered for the same reason, or has the same bundle, unless its indicator
is a threshold: then the objectives can differ. -/
theorem renderTemplate_modes (mode mode' : ThresholdObjectives) (baseName : String) :
    SameOutcome (fun b b' => b' = b ∨ MeasuresThreshold s t ∧ ChangesObjectives b b')
      (renderTemplate mode s baseName t) (renderTemplate mode' s baseName t) := by
  refine SameOutcome.bind (indicatorOf s t) fun i hi => ?_
  refine SameOutcome.bind (policiesOf s t) fun ps _ => ?_
  refine SameOutcome.bind (targetsOf s ps) fun ts _ => ?_
  refine SameOutcome.bind (serviceOf s t) fun service _ => ?_
  refine SameOutcome.bind (dataSourcesOf s i) fun ds _ => ?_
  by_cases hthreshold : i.metric.isThreshold
  · exact .inr ⟨⟨i, hi, hthreshold⟩, changesObjectives_documents _ ps _⟩
  · refine .inl ?_
    simp only [objectiveDocument, objectives_of_not_isThreshold mode' mode hthreshold]

end Reliability

/-! ## Two runs -/

namespace Specification

variable {s : Specification} {c c' : Configuration} {baseName : String} {g g' : Generation}
  {a : Artifact}

/-- Two runs of one specification that differ in the objectives of thresholds at most. -/
structure ChangesThresholds (s : Specification) (c c' : Configuration) (baseName : String)
    (g g' : Generation) : Prop where
  paths : g'.artifacts.map (·.path) = g.artifacts.map (·.path)
  contract : ∃ a, g.artifact? (baseName ++ ".yaml") = some a ∧
    g'.artifact? (baseName ++ ".yaml") = some a
  agreements : g'.artifact? (baseName ++ "-sla.yaml") = g.artifact? (baseName ++ "-sla.yaml")
  /-- The artifact of a template is its bundle under the settings of the run. The two bundles are
  the same unless the indicator of the template is a threshold. -/
  objectives : ∀ t ∈ s.objectiveTemplates, ∃ b b',
    Reliability.renderTemplate c.reliability.thresholdObjectives s baseName t = .ok b ∧
    Reliability.renderTemplate c'.reliability.thresholdObjectives s baseName t = .ok b' ∧
    g.artifact? (Reliability.fileName baseName t.name) = some ⟨b.fileName, b.text⟩ ∧
    g'.artifact? (Reliability.fileName baseName t.name) = some ⟨b'.fileName, b'.text⟩ ∧
    (b' = b ∨ Reliability.MeasuresThreshold s t ∧ Reliability.ChangesObjectives b b')

/-- What settings change in the runs of a specification. -/
structure KeepsApart (s : Specification) (c c' : Configuration) (baseName : String) : Prop where
  /-- If the same is written for thresholds, runs that succeed have the same artifacts. -/
  artifacts : c.reliability.thresholdObjectives = c'.reliability.thresholdObjectives →
    ∀ g g', s.generate c baseName = .ok g → s.generate c' baseName = .ok g' →
      g.artifacts = g'.artifacts
  /-- If they do not end alike, one of them is refused for what was found. -/
  outcomes : c.reliability.thresholdObjectives = c'.reliability.thresholdObjectives →
    IsRejected (s.generate c baseName) ∨ IsRejected (s.generate c' baseName) ∨
      SameOutcome (fun g g' => g.artifacts = g'.artifacts) (s.generate c baseName)
        (s.generate c' baseName)
  /-- Whatever is written for thresholds, nothing but their objectives changes. -/
  thresholds : ∀ g g', s.generate c baseName = .ok g → s.generate c' baseName = .ok g' →
    s.ChangesThresholds c c' baseName g g'

/-! ## Artifacts by their paths -/

theorem artifact?_eq_some (h : s.generate c baseName = .ok g) {path : String} :
    g.artifact? path = some a ↔ a ∈ g.artifacts ∧ a.path = path := by
  constructor
  · intro hfound
    exact ⟨List.mem_of_find?_eq_some hfound, by simpa using List.find?_some hfound⟩
  · rintro ⟨ha, rfl⟩
    cases hfound : g.artifact? a.path with
    | none => exact absurd (List.find?_eq_none.mp hfound a ha) (by simp)
    | some b =>
        have hpath : b.path = a.path := by simpa using List.find?_some hfound
        have hb := List.mem_of_find?_eq_some hfound
        rw [List.inj_on_of_nodup_map (artifacts_nodup h) hb ha hpath]

theorem mem_draftArtifacts {d : Draft} : a ∈ s.draftArtifacts baseName d ↔
    a ∈ s.agreementArtifacts baseName ∨ (∃ b ∈ d.bundles, ⟨b.fileName, b.text⟩ = a) ∨
      a = ⟨Contract.fileName baseName, Yaml.render d.contract⟩ := by
  rw [draftArtifacts, (sortByPath_perm _).mem_iff, List.mem_append, List.mem_append, List.mem_map,
    List.mem_singleton, or_assoc]

/-- Every template has its bundle. -/
theorem exists_bundle_of_mem {bundles : List ReliabilityBundle} {t : ObjectiveTemplate}
    (h : s.reliabilityBundles c baseName = .ok bundles) (ht : t ∈ s.objectiveTemplates) :
    ∃ b ∈ bundles,
      Reliability.renderTemplate c.reliability.thresholdObjectives s baseName t = .ok b := by
  rw [reliabilityBundles_eq, mapM_eq_ok] at h
  have hmem := List.mem_map_of_mem (f := Reliability.renderTemplate
    c.reliability.thresholdObjectives s baseName) ht
  rw [h] at hmem
  obtain ⟨b, hb, heq⟩ := List.mem_map.mp hmem
  exact ⟨b, hb, heq.symm⟩

theorem fileName_of_renderTemplate {mode : ThresholdObjectives} {t : ObjectiveTemplate}
    {b : ReliabilityBundle} (h : Reliability.renderTemplate mode s baseName t = .ok b) :
    b.fileName = Reliability.fileName baseName t.name := by
  obtain ⟨x, -, rfl⟩ := Reliability.renderTemplate_eq_ok h
  rfl

/-- The artifact of a template is its bundle. -/
theorem artifact?_objectiveFile (h : s.generate c baseName = .ok g) {t : ObjectiveTemplate}
    (ht : t ∈ s.objectiveTemplates) : ∃ b,
      Reliability.renderTemplate c.reliability.thresholdObjectives s baseName t = .ok b ∧
        g.artifact? (Reliability.fileName baseName t.name) = some ⟨b.fileName, b.text⟩ := by
  obtain ⟨-, d, hd, hg, -⟩ := exists_draft_of_generate h
  obtain ⟨b, hb, hrender⟩ := exists_bundle_of_mem (bundles_of_draft hd) ht
  refine ⟨b, hrender, (artifact?_eq_some h).mpr ⟨?_, fileName_of_renderTemplate hrender⟩⟩
  rw [hg, mem_draftArtifacts]
  exact .inr (.inl ⟨b, hb, rfl⟩)

/-! ## Contracts under other settings -/

/-- A contract depends on the version that is taken for granted, and on no other setting. -/
theorem contract_of_drafts (hversion : c.contract.defaultVersion = c'.contract.defaultVersion)
    {d d' : Draft} (hd : s.draft c baseName = .ok d) (hd' : s.draft c' baseName = .ok d') :
    d'.contract = d.contract := by
  obtain ⟨model, hmodel, hbundles, hcontract⟩ := draft_eq_ok.mp hd
  obtain ⟨model', hmodel', hbundles', hcontract'⟩ := draft_eq_ok.mp hd'
  obtain rfl := Except.ok.inj (hmodel.symm.trans hmodel')
  have hfiles : d'.bundles.map (·.fileName) = d.bundles.map (·.fileName) := by
    rw [reliabilityBundles_fileName hbundles, reliabilityBundles_fileName hbundles']
  have hsame : s.contract c' baseName model d'.bundles = s.contract c baseName model d.bundles := by
    simp only [contract, heading, hversion, hfiles]
  exact Except.ok.inj (hcontract'.symm.trans (hsame.trans hcontract))

/-- An artifact that is no bundle depends on the version that is taken for granted, and on no other
setting. -/
theorem artifact?_congr (hversion : c.contract.defaultVersion = c'.contract.defaultVersion)
    (h : s.generate c baseName = .ok g) (h' : s.generate c' baseName = .ok g') {path : String}
    (hpath : ∀ name, path ≠ Reliability.fileName baseName name) :
    g'.artifact? path = g.artifact? path := by
  obtain ⟨-, d, hd, hg, -⟩ := exists_draft_of_generate h
  obtain ⟨-, d', hd', hg', -⟩ := exists_draft_of_generate h'
  have hbundles : ∀ {c : Configuration} {d : Draft}, s.draft c baseName = .ok d →
      ∀ b ∈ d.bundles, b.fileName ≠ path := by
    rintro c d hd b hb rfl
    have hname := List.mem_map_of_mem (f := ReliabilityBundle.fileName) hb
    rw [reliabilityBundles_fileName (bundles_of_draft hd)] at hname
    obtain ⟨t, -, ht⟩ := List.mem_map.mp hname
    exact hpath t.name ht.symm
  refine Option.ext fun a => ?_
  rw [artifact?_eq_some h, artifact?_eq_some h', and_congr_left_iff]
  rintro rfl
  have hno : ¬ ∃ b ∈ d.bundles, (⟨b.fileName, b.text⟩ : Artifact) = a :=
    fun ⟨b, hb, hab⟩ => hbundles hd b hb (congrArg Artifact.path hab)
  have hno' : ¬ ∃ b ∈ d'.bundles, (⟨b.fileName, b.text⟩ : Artifact) = a :=
    fun ⟨b, hb, hab⟩ => hbundles hd' b hb (congrArg Artifact.path hab)
  rw [hg, hg', mem_draftArtifacts, mem_draftArtifacts, contract_of_drafts hversion hd hd']
  simp only [hno, hno']

theorem paths_eq_sortedPaths (h : s.generate c baseName = .ok g) :
    g.artifacts.map (·.path) = s.sortedPaths baseName := by
  obtain ⟨-, d, hd, hg, -⟩ := exists_draft_of_generate h
  rw [hg, draftArtifacts_map_path hd]

/-- Two runs that take the same version for granted differ in the objectives of thresholds at
most. -/
theorem changesThresholds (hversion : c.contract.defaultVersion = c'.contract.defaultVersion)
    (h : s.generate c baseName = .ok g) (h' : s.generate c' baseName = .ok g') :
    s.ChangesThresholds c c' baseName g g' where
  paths := (paths_eq_sortedPaths h').trans (paths_eq_sortedPaths h).symm
  contract := by
    obtain ⟨-, d, hd, hg, -⟩ := exists_draft_of_generate h
    have hmem : ⟨Contract.fileName baseName, Yaml.render d.contract⟩ ∈ g.artifacts := by
      rw [hg, mem_draftArtifacts]
      exact .inr (.inr rfl)
    have hfound := (artifact?_eq_some h).mpr ⟨hmem, rfl⟩
    exact ⟨_, hfound, (artifact?_congr hversion h h' contractFile_ne_objectiveFile).trans hfound⟩
  agreements := artifact?_congr hversion h h' agreementFile_ne_objectiveFile
  objectives t ht := by
    obtain ⟨b, hb, hfound⟩ := artifact?_objectiveFile h ht
    obtain ⟨b', hb', hfound'⟩ := artifact?_objectiveFile h' ht
    have hmodes := Reliability.renderTemplate_modes (s := s) (t := t)
      c.reliability.thresholdObjectives c'.reliability.thresholdObjectives baseName
    rw [hb, hb'] at hmodes
    exact ⟨b, b', hb, hb', hfound, hfound', hmodes⟩

/-! ## Runs under other settings -/

/-- Where the same is written for thresholds, settings do not change what a run ends with, except
that it can be refused for what was found. -/
theorem rejected_or_same (hversion : c.contract.defaultVersion = c'.contract.defaultVersion)
    (hmode : c.reliability.thresholdObjectives = c'.reliability.thresholdObjectives) :
    IsRejected (s.generate c baseName) ∨ IsRejected (s.generate c' baseName) ∨
      SameOutcome (fun g g' => g.artifacts = g'.artifacts) (s.generate c baseName)
        (s.generate c' baseName) := by
  have hdraft : s.draft c baseName = s.draft c' baseName := draft_congr hversion hmode
  cases hd : s.draft c baseName with
  | error e =>
      rw [generate_eq, generate_eq, ← hdraft, hd]
      exact .inr (.inr rfl)
  | ok d =>
      obtain ⟨violations, hv⟩ := exists_contractViolations c hd
      obtain ⟨violations', hv'⟩ := exists_contractViolations c' hd
      rcases rejected_or_sameOutcome hd (hdraft.symm.trans hd) hv hv' with h | h | h
      · exact .inl h
      · exact .inr (.inl h)
      · exact .inr (.inr (h.imp fun _ _ hsame => hsame.1))

/-- What a run makes depends on two settings, and on one of them only in the objectives of
thresholds. -/
theorem generate_keepsApart (hversion : c.contract.defaultVersion = c'.contract.defaultVersion) :
    s.KeepsApart c c' baseName where
  artifacts hmode g g' h h' := by
    obtain ⟨-, d, hd, hg, -⟩ := exists_draft_of_generate h
    obtain ⟨-, d', hd', hg', -⟩ := exists_draft_of_generate h'
    rw [draft_congr hversion hmode] at hd
    obtain rfl := Except.ok.inj (hd.symm.trans hd')
    rw [hg, hg']
  outcomes := rejected_or_same hversion
  thresholds _ _ := changesThresholds hversion

/-- The shop with the template of a threshold. -/
def latencyShop : Specification :=
  { Reliability.checkoutSpecification with objectiveTemplates := [Reliability.latencyTemplate] }

/-- Settings that differ in what is written for thresholds. -/
def settingsWith (mode : ThresholdObjectives) : Configuration :=
  { uncheckedSettings with reliability := ⟨mode⟩ }

/-- What the template of the threshold selects. -/
def latencySelection : Reliability.Selection :=
  { Reliability.checkoutSelection with
    indicator := Reliability.latencyIndicator
    dataSources := [⟨"metrics", none, none, "Prometheus", "https://metrics.test"⟩] }

def latencyBundle (mode : ThresholdObjectives) : ReliabilityBundle :=
  ⟨"shop-openslo-latency.yaml", "latency",
    latencySelection.documents mode Reliability.latencyTemplate⟩

def latencyContract : Value :=
  .map [("openapi", .text "3.0.1"),
    ("info", .map [("title", .text "Shop"), ("version", .text "1.0"),
      ("x-openslo", .list [.text "shop-openslo-latency.yaml"])]),
    ("tags", .list []), ("paths", .map []), ("components", .map [("schemas", .map [])])]

/-- What is generated from it. -/
def latencyRun (mode : ThresholdObjectives) : Generation where
  artifacts := sortByPath [⟨"shop-openslo-latency.yaml", (latencyBundle mode).text⟩,
    ⟨"shop.yaml", Yaml.render latencyContract⟩]
  findings := latencyShop.findings {}
  violations := []

theorem generate_latencyShop (mode : ThresholdObjectives) :
    latencyShop.generate (settingsWith mode) "shop" = .ok (latencyRun mode) :=
  generate_eq_ok.mpr ⟨⟨.empty, []⟩, [latencyBundle mode], latencyContract, {
    model_eq := by decide
    bundles_eq := by cases mode <;> decide +kernel
    contract_eq := by cases mode <;> decide +kernel
    findings_eq := rfl
    violations_eq := rfl
    accepted := by cases mode <;> decide
    artifacts_eq := rfl
    names_ok := checkNames_sortByPath.mpr (by cases mode <;> decide +kernel) }⟩

theorem generate_keepsApart_latencyShop :
    (settingsWith .full).contract.defaultVersion =
        (settingsWith .placeholder).contract.defaultVersion ∧
      latencyShop.KeepsApart (settingsWith .full) (settingsWith .placeholder) "shop" ∧
      latencyShop.ChangesThresholds (settingsWith .full) (settingsWith .placeholder) "shop"
        (latencyRun .full) (latencyRun .placeholder) ∧
      latencyBundle .full ≠ latencyBundle .placeholder := by
  have hversion : (settingsWith .full).contract.defaultVersion =
      (settingsWith .placeholder).contract.defaultVersion := rfl
  have hapart : latencyShop.KeepsApart (settingsWith .full) (settingsWith .placeholder) "shop" :=
    generate_keepsApart hversion
  refine ⟨hversion, hapart, ?_, by decide +kernel⟩
  exact hapart.thresholds _ _ (generate_latencyShop .full) (generate_latencyShop .placeholder)

end Specification

end ServiceContract
