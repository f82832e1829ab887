import ServiceContract.Proofs.Contract.Layout
import ServiceContract.Proofs.Contract.Words
import ServiceContract.Proofs.Generation.Links
import ServiceContract.Proofs.Reliability.Resolution
import ServiceContract.Proofs.Yaml.RoundTrip

/-!
# Drafts

A run makes its documents first, by two of its settings, and then judges them by others. It cannot
make them for what is declared wrong; what is found decides whether there are artifacts, but not
what they hold.
-/

namespace ServiceContract

/-- The documents of a run that can fail to be made. -/
structure Draft where
  bundles : List ReliabilityBundle
  contract : Value

/-- A run is refused for what was found. -/
def IsRejected (outcome : Except GenerationError Generation) : Prop :=
  ∃ findings messages, outcome = .error (.findingsRejected findings messages)

namespace Specification

section

variable (s : Specification) (c : Configuration) (baseName : String)

/-- Makes the documents of a run. -/
def draft : Except GenerationError Draft := do
  let model ← s.model
  let bundles ← s.reliabilityBundles c baseName
  let contract ← s.contract c baseName model bundles
  return ⟨bundles, contract⟩

/-- The artifacts of a draft, in the order of their paths. -/
def draftArtifacts (d : Draft) : List Artifact :=
  sortByPath (s.agreementArtifacts baseName ++ d.bundles.map (fun b => ⟨b.fileName, b.text⟩) ++
    [⟨Contract.fileName baseName, Yaml.render d.contract⟩])

/-- Something was found, which the settings make a failure. -/
def Refuses (violations : List Violation) : Prop :=
  c.validation.failOnFindings = true ∧ (s.findings c.validation ≠ [] ∨ violations ≠ [])

/-- What comes of a draft, by what is found wrong with its contract. -/
def judge (d : Draft) (violations : List Violation) : Except GenerationError Generation := do
  if c.validation.failOnFindings && !((s.findings c.validation).isEmpty && violations.isEmpty) then
    throw (.findingsRejected (s.findings c.validation).length violations.length)
  checkNames [] (s.draftArtifacts baseName d)
  return ⟨s.draftArtifacts baseName d, s.findings c.validation, violations⟩

end

variable {s : Specification} {c c' : Configuration} {baseName : String} {d : Draft}
  {violations : List Violation}

theorem draft_eq_ok : s.draft c baseName = .ok d ↔ ∃ model, s.model = .ok model ∧
    s.reliabilityBundles c baseName = .ok d.bundles ∧
      s.contract c baseName model d.bundles = .ok d.contract := by
  constructor
  · intro h
    obtain ⟨model, hmodel, h⟩ := bind_eq_ok.mp h
    obtain ⟨bundles, hbundles, h⟩ := bind_eq_ok.mp h
    obtain ⟨contract, hcontract, h⟩ := bind_eq_ok.mp h
    cases h
    exact ⟨model, hmodel, hbundles, hcontract⟩
  · rintro ⟨model, hmodel, hbundles, hcontract⟩
    exact bind_eq_ok.mpr ⟨model, hmodel, bind_eq_ok.mpr ⟨d.bundles, hbundles,
      bind_eq_ok.mpr ⟨d.contract, hcontract, rfl⟩⟩⟩

theorem bundles_of_draft (h : s.draft c baseName = .ok d) :
    s.reliabilityBundles c baseName = .ok d.bundles := by
  obtain ⟨model, -, hbundles, -⟩ := draft_eq_ok.mp h
  exact hbundles

/-! ## Judging drafts -/

theorem generate_eq : s.generate c baseName = s.draft c baseName >>= fun d =>
    contractViolations c (Yaml.render d.contract) >>= s.judge c baseName d := by
  unfold generate draft
  simp only [bind_assoc, pure_bind]
  rfl

theorem judge_of_refuses (h : s.Refuses c violations) : s.judge c baseName d violations =
    .error (.findingsRejected (s.findings c.validation).length violations.length) := by
  obtain ⟨hfail, hfound⟩ := h
  have hcondition : (c.validation.failOnFindings &&
      !((s.findings c.validation).isEmpty && violations.isEmpty)) = true := by
    simpa [hfail, ← not_and_or] using hfound
  rw [judge, if_pos hcondition]
  rfl

theorem judge_of_not_refuses (h : ¬ s.Refuses c violations) : s.judge c baseName d violations =
    checkNames [] (s.draftArtifacts baseName d) >>= fun _ =>
      .ok ⟨s.draftArtifacts baseName d, s.findings c.validation, violations⟩ := by
  have hcondition : ¬ (c.validation.failOnFindings &&
      !((s.findings c.validation).isEmpty && violations.isEmpty)) = true := by
    simpa [Refuses, ← not_and_or] using h
  rw [judge, if_neg hcondition]
  rfl

/-- The contract of a run is read back from its text. -/
theorem read?_contract (h : s.draft c baseName = .ok d) :
    Yaml.read? (Yaml.render d.contract) = some d.contract.unique := by
  obtain ⟨model, -, -, hcontract⟩ := draft_eq_ok.mp h
  obtain ⟨document, hrender, heq⟩ := map_eq_ok.mp hcontract
  have hwordy : d.contract.IsWordy 9 := by
    rw [← heq]
    exact Contract.isWordy_attach (Contract.isWordy_render hrender)
  exact Yaml.read?_render (hwordy.mono (by decide))

variable (c') in
/-- A contract can be checked, under any settings. -/
theorem exists_contractViolations (h : s.draft c baseName = .ok d) :
    ∃ violations, contractViolations c' (Yaml.render d.contract) = .ok violations := by
  unfold contractViolations
  by_cases hrun : c'.contract.runValidator
  · rw [if_pos hrun, Contract.textViolations?, read?_contract h]
    exact ⟨_, rfl⟩
  · rw [if_neg hrun]
    exact ⟨[], rfl⟩

/-- A draft depends on the version that is taken for granted and on what is written for thresholds,
and on no other setting. -/
theorem draft_congr (hversion : c.contract.defaultVersion = c'.contract.defaultVersion)
    (hmode : c.reliability.thresholdObjectives = c'.reliability.thresholdObjectives) :
    s.draft c baseName = s.draft c' baseName := by
  simp only [draft, contract, heading, reliabilityBundles, hversion, hmode]

/-- A draft that is checked is judged. -/
theorem generate_of_draft (hd : s.draft c baseName = .ok d)
    (hv : contractViolations c (Yaml.render d.contract) = .ok violations) :
    s.generate c baseName = s.judge c baseName d violations := by
  rw [generate_eq, hd]
  show contractViolations c _ >>= _ = _
  rw [hv]
  rfl

/-- Of two runs with one draft that is checked, one is refused for what was found, or both end
alike. -/
theorem rejected_or_sameOutcome {violations' : List Violation}
    (hd : s.draft c baseName = .ok d) (hd' : s.draft c' baseName = .ok d)
    (hv : contractViolations c (Yaml.render d.contract) = .ok violations)
    (hv' : contractViolations c' (Yaml.render d.contract) = .ok violations') :
    IsRejected (s.generate c baseName) ∨ IsRejected (s.generate c' baseName) ∨
      SameOutcome (fun g g' => g.artifacts = g'.artifacts ∧ g.violations = violations ∧
        g'.violations = violations') (s.generate c baseName) (s.generate c' baseName) := by
  rw [generate_of_draft hd hv, generate_of_draft hd' hv']
  by_cases h : s.Refuses c violations
  · exact .inl ⟨_, _, judge_of_refuses h⟩
  by_cases h' : s.Refuses c' violations'
  · exact .inr (.inl ⟨_, _, judge_of_refuses h'⟩)
  · rw [judge_of_not_refuses h, judge_of_not_refuses h']
    exact .inr (.inr (SameOutcome.bind _ fun _ _ => ⟨rfl, rfl, rfl⟩))

/-- A run that succeeds is a draft that is checked, with what was found. -/
theorem exists_draft_of_generate {g : Generation} (h : s.generate c baseName = .ok g) :
    g.findings = s.findings c.validation ∧
      ∃ d, s.draft c baseName = .ok d ∧ g.artifacts = s.draftArtifacts baseName d ∧
        contractViolations c (Yaml.render d.contract) = .ok g.violations := by
  rw [generate_eq] at h
  obtain ⟨d, hd, h⟩ := bind_eq_ok.mp h
  obtain ⟨violations, hv, h⟩ := bind_eq_ok.mp h
  by_cases hrefused : s.Refuses c violations
  · rw [judge_of_refuses hrefused] at h
    cases h
  · rw [judge_of_not_refuses hrefused] at h
    obtain ⟨-, -, h⟩ := bind_eq_ok.mp h
    cases h
    exact ⟨rfl, d, hd, rfl, hv⟩

/-! ## Drafts that cannot be made -/

theorem reliabilityBundles_eq : s.reliabilityBundles c baseName = s.objectiveTemplates.mapM
    (Reliability.renderTemplate c.reliability.thresholdObjectives s baseName) := by
  unfold reliabilityBundles
  by_cases hnil : s.objectiveTemplates = []
  · rw [hnil]
    rfl
  · rw [if_neg (by simpa using hnil), Reliability.render_of_ne_nil _ _ hnil]

/-- Everything that a template names is declared. -/
def Declares (s : Specification) (t : ObjectiveTemplate) : Prop :=
  ∀ l ∈ Reliability.lookups s t, l.Succeeds s

/-- What is the first to be looked up and not declared: for the first template that names something
like this, the first thing that it names. -/
def FirstUnresolved (s : Specification) (l : Lookup) : Prop :=
  ∃ t, FirstWithout s.Declares s.objectiveTemplates t ∧
    FirstWithout (·.Succeeds s) (Reliability.lookups s t) l

theorem exists_reliabilityBundles_iff :
    (∃ bundles, s.reliabilityBundles c baseName = .ok bundles) ↔
      ∀ t ∈ s.objectiveTemplates, s.Declares t := by
  rw [reliabilityBundles_eq, exists_mapM_eq_ok]
  exact forall₂_congr fun t _ => (Reliability.renderTemplate_settles _ _).exists_ok_iff

theorem reliabilityBundles_eq_error {e : GenerationError} :
    s.reliabilityBundles c baseName = .error e ↔ ∃ l, s.FirstUnresolved l ∧ e = l.error := by
  have hrendered : (fun t => ∃ b, Reliability.renderTemplate c.reliability.thresholdObjectives s
      baseName t = .ok b) = s.Declares := by
    funext t
    exact propext (Reliability.renderTemplate_settles _ _).exists_ok_iff
  rw [reliabilityBundles_eq, mapM_eq_error, hrendered]
  constructor
  · rintro ⟨t, ht, he⟩
    obtain ⟨l, hl, rfl⟩ := (Reliability.renderTemplate_settles _ _).eq_error_iff.mp he
    exact ⟨l, ⟨t, ht, hl⟩, rfl⟩
  · rintro ⟨l, ⟨t, ht, hl⟩, rfl⟩
    exact ⟨t, ht, (Reliability.renderTemplate_settles _ _).eq_error_iff.mpr ⟨l, hl, rfl⟩⟩

/-- A contract is not rendered only because a place is asked for again. -/
theorem contract_eq_error {model : Model} {bundles : List ReliabilityBundle} {e : GenerationError}
    (hmodel : Model.build s.dataTypes s.endpoints = .ok model) :
    s.contract c baseName model bundles = .error e ↔ ∃ method path,
      Contract.IsFirstRepeat (Contract.spots s.endpoints) (path, method) ∧
        e = .duplicateOperation method path := by
  have hrender : s.contract c baseName model bundles = .error e ↔
      Contract.render (s.heading c) model = .error e := map_eq_error
  rw [hrender]
  constructor
  · intro h
    obtain ⟨method, path, rfl⟩ := Contract.render_eq_error hmodel h
    exact ⟨method, path, (Contract.render_eq_duplicate_iff hmodel).mp h, rfl⟩
  · rintro ⟨method, path, hrepeat, rfl⟩
    exact (Contract.render_eq_duplicate_iff hmodel).mpr hrepeat

/-- Why a draft cannot be made: what is declared makes no model, a template names something that is
not declared, or two operations ask for one place. The first of them counts. -/
inductive NoDraft (s : Specification) : GenerationError → Prop where
  | model {e : ModelError} :
      Model.build s.dataTypes s.endpoints = .error e → NoDraft s (.model e)
  | unresolved {model : Model} {l : Lookup} :
      Model.build s.dataTypes s.endpoints = .ok model → s.FirstUnresolved l → NoDraft s l.error
  | duplicate {model : Model} {method : Method} {path : String} :
      Model.build s.dataTypes s.endpoints = .ok model →
      (∀ t ∈ s.objectiveTemplates, s.Declares t) →
      Contract.IsFirstRepeat (Contract.spots s.endpoints) (path, method) →
      NoDraft s (.duplicateOperation method path)

theorem draft_of_build {model : Model} (h : Model.build s.dataTypes s.endpoints = .ok model) :
    s.draft c baseName = s.reliabilityBundles c baseName >>= fun bundles =>
      Draft.mk bundles <$> s.contract c baseName model bundles := by
  have hmodel : s.model = .ok model := mapError_eq_ok.mpr h
  rw [draft, hmodel]
  simp only [bind_pure_comp]
  rfl

theorem draft_eq_error {e : GenerationError} :
    s.draft c baseName = .error e ↔ s.NoDraft e := by
  constructor
  · intro h
    cases hmodel : Model.build s.dataTypes s.endpoints with
    | error e' =>
        rw [draft, model, hmodel] at h
        cases h
        exact .model hmodel
    | ok model =>
        rw [draft_of_build hmodel] at h
        rcases bind_eq_error.mp h with hbundles | ⟨bundles, hbundles, h⟩
        · obtain ⟨l, hl, rfl⟩ := reliabilityBundles_eq_error.mp hbundles
          exact .unresolved hmodel hl
        · obtain ⟨method, path, hrepeat, rfl⟩ :=
            (contract_eq_error hmodel).mp (map_eq_error.mp h)
          exact .duplicate hmodel (exists_reliabilityBundles_iff.mp ⟨bundles, hbundles⟩) hrepeat
  · intro h
    cases h with
    | model hmodel =>
        rw [draft, model, hmodel]
        rfl
    | @unresolved model l hmodel hl =>
        rw [draft_of_build hmodel]
        exact bind_eq_error.mpr (.inl (reliabilityBundles_eq_error.mpr ⟨l, hl, rfl⟩))
    | @duplicate model method path hmodel hall hrepeat =>
        obtain ⟨bundles, hbundles⟩ := exists_reliabilityBundles_iff.mpr hall
        rw [draft_of_build hmodel]
        refine bind_eq_error.mpr (.inr ⟨bundles, hbundles, map_eq_error.mpr ?_⟩)
        exact (contract_eq_error hmodel).mpr ⟨method, path, hrepeat, rfl⟩

end Specification

end ServiceContract
