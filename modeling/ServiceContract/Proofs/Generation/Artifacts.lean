import Mathlib.Data.List.Nodup
import ServiceContract.Generation.Build
import ServiceContract.Proofs.Order
import ServiceContract.Proofs.Outcome
import ServiceContract.Proofs.Reliability.Selection

/-!
# The artifacts of a run

A run that succeeds has artifacts in the order of their paths, no two under the same one, and every
path is the name of a file that ends as the files of runs do.
-/

namespace ServiceContract

/-! ## Names of artifacts -/

theorem checkNames_eq_ok {seen : List String} {as : List Artifact} :
    checkNames seen as = .ok () ↔
      (∀ a ∈ as, isFileName a.path ∧ a.path ∉ seen) ∧ (as.map (·.path)).Nodup := by
  induction as generalizing seen with
  | nil => simp [checkNames]
  | cons a rest ih =>
      unfold checkNames
      by_cases hname : isFileName a.path
      · by_cases hseen : a.path ∈ seen
        · simp [hname, hseen]
        · have hrest : checkNames (a.path :: seen) rest = .ok () ↔
              (∀ b ∈ rest, isFileName b.path ∧ b.path ≠ a.path ∧ b.path ∉ seen) ∧
                (rest.map (·.path)).Nodup := by
            simp only [ih, List.mem_cons, not_or, ne_eq]
          have hnew : a.path ∉ rest.map (·.path) ↔ ∀ b ∈ rest, b.path ≠ a.path := by
            simp
          rw [if_neg (by simp [hname]), if_neg (by simp [hseen]), hrest, List.forall_mem_cons,
            List.map_cons, List.nodup_cons, hnew]
          constructor
          · rintro ⟨h, hnodup⟩
            exact ⟨⟨⟨hname, hseen⟩, fun b hb => ⟨(h b hb).1, (h b hb).2.2⟩⟩,
              fun b hb => (h b hb).2.1, hnodup⟩
          · rintro ⟨⟨-, h⟩, hne, hnodup⟩
            exact ⟨fun b hb => ⟨(h b hb).1, hne b hb, (h b hb).2⟩, hnodup⟩
      · simp [hname]

theorem sortByPath_perm (as : List Artifact) : (sortByPath as).Perm as := List.mergeSort_perm _ _

theorem sortByPath_pairwise (as : List Artifact) :
    (sortByPath as).Pairwise (·.path ≤ ·.path) :=
  pairwise_mergeSort_name Artifact.path as

/-! ## Bundles -/

namespace Reliability

variable {mode : ThresholdObjectives} {s : Specification} {baseName : String}

theorem renderTemplates_fileName {ts : List ObjectiveTemplate} {bs : List ReliabilityBundle}
    (h : renderTemplates mode s baseName ts = .ok bs) :
    bs.map (·.fileName) = ts.map fun t => fileName baseName t.name := by
  induction ts generalizing bs with
  | nil =>
      cases h
      rfl
  | cons t rest ih =>
      obtain ⟨b, hb, h⟩ := bind_eq_ok.mp h
      obtain ⟨more, hmore, h⟩ := bind_eq_ok.mp h
      cases h
      obtain ⟨x, -, rfl⟩ := renderTemplate_eq_ok hb
      rw [List.map_cons, List.map_cons, ih hmore]

end Reliability

namespace Specification

variable {s : Specification} {c : Configuration} {baseName : String}

theorem reliabilityBundles_fileName {bs : List ReliabilityBundle}
    (h : s.reliabilityBundles c baseName = .ok bs) :
    bs.map (·.fileName) =
      s.objectiveTemplates.map fun t => Reliability.fileName baseName t.name := by
  unfold reliabilityBundles Reliability.render at h
  by_cases hempty : s.objectiveTemplates.isEmpty
  · obtain rfl : [] = bs := by simpa [hempty] using h
    simp [List.isEmpty_iff.mp hempty]
  · rw [if_neg hempty, if_neg hempty] at h
    exact Reliability.renderTemplates_fileName h

/-! ## Whole runs -/

/-- What a run that succeeds has gone through. -/
structure Produces (s : Specification) (c : Configuration) (baseName : String) (g : Generation)
    (model : Model) (bundles : List ReliabilityBundle) (contract : Value) : Prop where
  model_eq : s.model = .ok model
  bundles_eq : s.reliabilityBundles c baseName = .ok bundles
  contract_eq : s.contract c baseName model bundles = .ok contract
  findings_eq : g.findings = s.findings c.validation
  violations_eq : contractViolations c (Yaml.render contract) = .ok g.violations
  accepted : c.validation.failOnFindings → g.isClean
  artifacts_eq : g.artifacts = sortByPath (s.agreementArtifacts baseName ++
    bundles.map (fun b => ⟨b.fileName, b.text⟩) ++
      [⟨Contract.fileName baseName, Yaml.render contract⟩])
  names_ok : checkNames [] g.artifacts = .ok ()

theorem generate_eq_ok {g : Generation} : s.generate c baseName = .ok g ↔
    ∃ model bundles contract, s.Produces c baseName g model bundles contract := by
  constructor
  · intro h
    obtain ⟨model, hmodel, h⟩ := bind_eq_ok.mp h
    obtain ⟨bundles, hbundles, h⟩ := bind_eq_ok.mp h
    obtain ⟨contract, hcontract, h⟩ := bind_eq_ok.mp h
    obtain ⟨violations, hviolations, h⟩ := bind_eq_ok.mp h
    dsimp only at h
    split at h
    · cases h
    · rename_i haccepted
      obtain ⟨_, hnames, h⟩ := bind_eq_ok.mp h
      cases h
      refine ⟨model, bundles, contract, hmodel, hbundles, hcontract, rfl, hviolations, ?_, rfl,
        hnames⟩
      simpa [Generation.isClean] using haccepted
  · rintro ⟨model, bundles, contract, h⟩
    refine bind_eq_ok.mpr ⟨model, h.model_eq, bind_eq_ok.mpr ⟨bundles, h.bundles_eq,
      bind_eq_ok.mpr ⟨contract, h.contract_eq, bind_eq_ok.mpr ⟨g.violations, h.violations_eq, ?_⟩⟩⟩⟩
    have haccepted : ¬ (c.validation.failOnFindings &&
        !((s.findings c.validation).isEmpty && g.violations.isEmpty)) := by
      simpa [Generation.isClean, h.findings_eq] using h.accepted
    have hnames := h.names_ok
    rw [h.artifacts_eq] at hnames
    rw [if_neg haccepted]
    refine bind_eq_ok.mpr ⟨(), hnames, ?_⟩
    rw [← h.artifacts_eq, ← h.findings_eq]
    rfl

/-- Every path of a run ends as the files of runs do. -/
theorem exists_path_eq {g : Generation} (h : s.generate c baseName = .ok g) {a : Artifact}
    (ha : a ∈ g.artifacts) : ∃ stem, a.path = stem ++ ".yaml" := by
  obtain ⟨model, bundles, contract, hg⟩ := generate_eq_ok.mp h
  rw [hg.artifacts_eq, (sortByPath_perm _).mem_iff, List.mem_append, List.mem_append] at ha
  rcases ha with (ha | ha) | ha
  · obtain ⟨path, hpath, rfl⟩ := List.mem_map.mp ha
    unfold agreementFile at hpath
    split at hpath
    · cases hpath
    · obtain rfl : path = Agreement.fileName baseName := by simpa using hpath
      exact ⟨baseName ++ "-sla", by simp [Agreement.fileName, String.append_assoc]⟩
  · obtain ⟨b, hb, rfl⟩ := List.mem_map.mp ha
    have hname : b.fileName ∈ s.objectiveTemplates.map
        fun t => Reliability.fileName baseName t.name :=
      reliabilityBundles_fileName hg.bundles_eq ▸ List.mem_map_of_mem hb
    obtain ⟨t, -, ht⟩ := List.mem_map.mp hname
    exact ⟨baseName ++ Reliability.fileMark ++ t.name, ht.symm⟩
  · obtain rfl := List.mem_singleton.mp ha
    exact ⟨baseName, rfl⟩

theorem artifacts_pairwise {g : Generation} (h : s.generate c baseName = .ok g) :
    g.artifacts.Pairwise (·.path ≤ ·.path) := by
  obtain ⟨model, bundles, contract, hg⟩ := generate_eq_ok.mp h
  rw [hg.artifacts_eq]
  exact sortByPath_pairwise _

theorem artifacts_nodup {g : Generation} (h : s.generate c baseName = .ok g) :
    (g.artifacts.map (·.path)).Nodup := by
  obtain ⟨model, bundles, contract, hg⟩ := generate_eq_ok.mp h
  exact (checkNames_eq_ok.mp hg.names_ok).2

theorem Produces.fileNames_nodup {g : Generation} {model : Model}
    {bundles : List ReliabilityBundle} {contract : Value}
    (h : s.Produces c baseName g model bundles contract) : (bundles.map (·.fileName)).Nodup := by
  have hpaths := (checkNames_eq_ok.mp h.names_ok).2
  rw [h.artifacts_eq, ((sortByPath_perm _).map _).nodup_iff, List.map_append, List.map_append,
    List.map_map] at hpaths
  exact (List.nodup_append.mp (List.nodup_append.mp hpaths).1).2.1

theorem Produces.fileName_ne_empty {g : Generation} {model : Model}
    {bundles : List ReliabilityBundle} {contract : Value}
    (h : s.Produces c baseName g model bundles contract) :
    ∀ file ∈ bundles.map (·.fileName), file ≠ "" := by
  intro file hfile
  rw [reliabilityBundles_fileName h.bundles_eq] at hfile
  obtain ⟨t, -, rfl⟩ := List.mem_map.mp hfile
  simp [Reliability.fileName, Reliability.fileEnding]

theorem isFileName_of_mem_artifacts {g : Generation} (h : s.generate c baseName = .ok g)
    {a : Artifact} (ha : a ∈ g.artifacts) : isFileName a.path := by
  obtain ⟨model, bundles, contract, hg⟩ := generate_eq_ok.mp h
  exact ((checkNames_eq_ok.mp hg.names_ok).1 a ha).1

/-! ## A small run -/

/-- A specification with one template of agreements, and nothing else. -/
def goldShop : Specification where
  name := "Shop"
  version := none
  description := none
  dataTypes := []
  endpoints := []
  agreementTemplates := [⟨"gold", []⟩]
  objectiveTemplates := []
  indicators := []
  alertPolicies := []
  notificationTargets := []
  dataSources := []
  services := []

def goldShopContract : Value :=
  .map [("openapi", .text "3.0.1"),
    ("info", .map [("title", .text "Shop"), ("version", .text "1.0"),
      ("x-external-sla-file", .map [("$ref", .text "./base-sla.yaml")])]),
    ("tags", .list []), ("paths", .map []), ("components", .map [("schemas", .map [])])]

/-- What is generated from it. -/
def goldShopRun : Generation where
  artifacts := [⟨"base-sla.yaml", Yaml.render (Agreement.document goldShop.agreementTemplates)⟩,
    ⟨"base.yaml", Yaml.render goldShopContract⟩]
  findings := goldShop.findings {}
  violations := []

theorem generate_goldShop : goldShop.generate {} "base" = .ok goldShopRun := by
  have hsorted : sortByPath goldShopRun.artifacts = goldShopRun.artifacts :=
    List.mergeSort_of_pairwise (by decide +kernel)
  exact generate_eq_ok.mpr ⟨⟨.empty, []⟩, [], goldShopContract, {
    model_eq := by decide
    bundles_eq := by rfl
    contract_eq := by decide +kernel
    findings_eq := rfl
    violations_eq := by decide +kernel
    accepted := by decide
    artifacts_eq := hsorted.symm
    names_ok := by decide +kernel }⟩

end Specification

end ServiceContract
